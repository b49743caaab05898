import Mbstf.Core.Runs

/-!
# What is seen of a run

A step can be seen to do something, which depends on the state before it and on its label.
What is seen of a run is what is seen of its steps, one after another.
-/

namespace Mbstf.Observed

open Mbstf.Runs

variable {State Label Observation : Type*}

/-- What is seen of a run, as far as its labels are enabled. -/
def observed (step : State → Label → Option State)
    (observe : State → Label → List Observation) : State → List Label → List Observation
  | _, [] => []
  | state, label :: labels =>
      match step state label with
      | none => []
      | some next => observe state label ++ observed step observe next labels

variable {step : State → Label → Option State} {observe : State → Label → List Observation}
variable {start state next final : State} {labels : List Label} {label : Label}

/-- What is seen of a run that goes on. -/
theorem observed_append (hrun : run step start labels = some state) (more : List Label) :
    observed step observe start (labels ++ more) =
      observed step observe start labels ++ observed step observe state more := by
  induction labels generalizing start with
  | nil =>
      obtain rfl : start = state := by simpa using hrun
      rfl
  | cons first labels ih =>
      obtain ⟨middle, hfirst, hrest⟩ := run_cons_eq_some.mp hrun
      rw [List.cons_append, observed, observed, hfirst]
      simp only [ih hrest, List.append_assoc]

theorem observed_concat (hrun : run step start labels = some state)
    (hstep : step state label = some next) :
    observed step observe start (labels ++ [label]) =
      observed step observe start labels ++ observe state label := by
  rw [observed_append hrun, observed, hstep]
  simp only [observed, List.append_nil]

/-- Whatever is seen is seen of some step. -/
theorem exists_step_of_mem_observed {observation : Observation}
    (hmem : observation ∈ observed step observe start labels) :
    ∃ past label rest state next, labels = past ++ label :: rest ∧
      run step start past = some state ∧ step state label = some next ∧
      observation ∈ observe state label := by
  induction labels generalizing start with
  | nil => cases hmem
  | cons first labels ih =>
      rw [observed] at hmem
      split at hmem
      case h_1 => cases hmem
      case h_2 next hfirst =>
          cases List.mem_append.mp hmem with
          | inl hnow => exact ⟨[], first, labels, start, next, rfl, rfl, hfirst, hnow⟩
          | inr hlater =>
              obtain ⟨past, label, rest, state, after, rfl, hrun, hstep, hseen⟩ := ih hlater
              exact ⟨first :: past, label, rest, state, after, rfl,
                run_cons_eq_some.mpr ⟨next, hfirst, hrun⟩, hstep, hseen⟩

/-- The rule for invariants that relate the state to what was seen on the way. -/
theorem observed_invariant {Inv : List Observation → State → Prop}
    (hstep : ∀ seen state label next, Inv seen state → step state label = some next →
      Inv (seen ++ observe state label) next)
    (hstart : Inv [] start) (hrun : run step start labels = some final) :
    Inv (observed step observe start labels) final := by
  induction labels using List.reverseRecOn generalizing final with
  | nil =>
      obtain rfl : start = final := by simpa using hrun
      exact hstart
  | append_singleton labels label ih =>
      obtain ⟨middle, hmiddle, hlast⟩ := run_concat_eq_some.mp hrun
      rw [observed_concat hmiddle hlast]
      exact hstep _ middle label final (ih hmiddle) hlast

end Mbstf.Observed
