import Mbstf.Core.Observed

/-!
# A component that feeds another

A step of the source makes the sink take some steps at once, and in between the sink takes
steps of its own.  A run of both is a run of the source beside a run of the sink, and the
labels that the sink does not take on its own are those the source feeds it.
-/

namespace Mbstf.Feeding

open Mbstf.Runs Mbstf.Observed

variable {Source Sink SourceLabel SinkLabel Value : Type*}

/-- A step of the source, with the steps it feeds the sink, or a step that the sink takes on
its own. -/
def step (sourceStep : Source → SourceLabel → Option Source)
    (fed : Source → SourceLabel → List SinkLabel) (sinkStep : Sink → SinkLabel → Option Sink)
    (own : SinkLabel → Bool) :
    Source × Sink → SourceLabel ⊕ SinkLabel → Option (Source × Sink)
  | (source, sink), .inl label =>
      (sourceStep source label).bind fun next =>
        (run sinkStep sink (fed source label)).map fun after => (next, after)
  | (source, sink), .inr label =>
      if own label then (sinkStep sink label).map fun after => (source, after) else none

/-- The labels of the source. -/
def sourceLabels (labels : List (SourceLabel ⊕ SinkLabel)) : List SourceLabel :=
  labels.filterMap Sum.getLeft?

/-- The labels of the sink, its own and those it is fed. -/
def sinkLabels (sourceStep : Source → SourceLabel → Option Source)
    (fed : Source → SourceLabel → List SinkLabel) :
    Source → List (SourceLabel ⊕ SinkLabel) → List SinkLabel
  | _, [] => []
  | source, .inl label :: labels =>
      match sourceStep source label with
      | none => []
      | some next => fed source label ++ sinkLabels sourceStep fed next labels
  | source, .inr label :: labels => label :: sinkLabels sourceStep fed source labels

variable {sourceStep : Source → SourceLabel → Option Source}
variable {fed : Source → SourceLabel → List SinkLabel}
variable {sinkStep : Sink → SinkLabel → Option Sink} {own : SinkLabel → Bool}
variable {source : Source} {sink : Sink} {final : Source × Sink}
variable {labels : List (SourceLabel ⊕ SinkLabel)}

theorem step_inl_eq_some {label : SourceLabel} :
    step sourceStep fed sinkStep own (source, sink) (.inl label) = some final ↔
      sourceStep source label = some final.1 ∧
        run sinkStep sink (fed source label) = some final.2 := by
  rw [step, Option.bind_eq_some_iff]
  constructor
  · rintro ⟨next, hnext, hfed⟩
    obtain ⟨after, hafter, rfl⟩ := Option.map_eq_some_iff.mp hfed
    exact ⟨hnext, hafter⟩
  · rintro ⟨hnext, hafter⟩
    exact ⟨final.1, hnext, by rw [hafter, Option.map_some]⟩

theorem step_inr_eq_some {label : SinkLabel} :
    step sourceStep fed sinkStep own (source, sink) (.inr label) = some final ↔
      own label = true ∧ sinkStep sink label = some final.2 ∧ source = final.1 := by
  rw [step, Option.ite_none_right_eq_some, Option.map_eq_some_iff]
  refine and_congr_right fun _ => ⟨?_, ?_⟩
  · rintro ⟨after, hafter, rfl⟩
    exact ⟨hafter, rfl⟩
  · rintro ⟨hafter, rfl⟩
    exact ⟨final.2, hafter, rfl⟩

/-- The source runs as it does by itself. -/
theorem run_source
    (hrun : run (step sourceStep fed sinkStep own) (source, sink) labels = some final) :
    run sourceStep source (sourceLabels labels) = some final.1 := by
  induction labels generalizing source sink with
  | nil =>
      obtain rfl := Option.some.inj hrun
      rfl
  | cons label labels ih =>
      obtain ⟨next, hnext, hrest⟩ := run_cons_eq_some.mp hrun
      cases label with
      | inl label =>
          exact run_cons_eq_some.mpr ⟨next.1, (step_inl_eq_some.mp hnext).1, ih hrest⟩
      | inr label =>
          obtain ⟨-, -, rfl⟩ := step_inr_eq_some.mp hnext
          exact ih hrest

/-- The sink runs as it does by itself. -/
theorem run_sink
    (hrun : run (step sourceStep fed sinkStep own) (source, sink) labels = some final) :
    run sinkStep sink (sinkLabels sourceStep fed source labels) = some final.2 := by
  induction labels generalizing source sink with
  | nil =>
      obtain rfl := Option.some.inj hrun
      rfl
  | cons label labels ih =>
      obtain ⟨next, hnext, hrest⟩ := run_cons_eq_some.mp hrun
      cases label with
      | inl label =>
          obtain ⟨hsource, hfed⟩ := step_inl_eq_some.mp hnext
          rw [sinkLabels, hsource]
          exact run_append_eq_some.mpr ⟨next.2, hfed, ih hrest⟩
      | inr label =>
          obtain ⟨-, hsink, rfl⟩ := step_inr_eq_some.mp hnext
          exact run_cons_eq_some.mpr ⟨next.2, hsink, ih hrest⟩

/-- What is read of the sink's labels, when nothing is read of its own, is what is read of
those it is fed. -/
theorem filterMap_sinkLabels {read : SinkLabel → Option Value}
    (hown : ∀ label, own label = true → read label = none)
    (hrun : run (step sourceStep fed sinkStep own) (source, sink) labels = some final) :
    (sinkLabels sourceStep fed source labels).filterMap read =
      observed sourceStep (fun source label => (fed source label).filterMap read) source
        (sourceLabels labels) := by
  induction labels generalizing source sink with
  | nil => rfl
  | cons label labels ih =>
      obtain ⟨next, hnext, hrest⟩ := run_cons_eq_some.mp hrun
      cases label with
      | inl label =>
          obtain ⟨hsource, -⟩ := step_inl_eq_some.mp hnext
          have hlabels : sourceLabels (.inl label :: labels) = label :: sourceLabels labels := rfl
          rw [sinkLabels, hsource, List.filterMap_append, ih hrest, hlabels, observed, hsource]
      | inr label =>
          obtain ⟨hlabel, -, rfl⟩ := step_inr_eq_some.mp hnext
          rw [sinkLabels, List.filterMap_cons_none (hown label hlabel), ih hrest]
          rfl

end Mbstf.Feeding
