import Mathlib

/-!
# Finite runs of a labelled step function

A component is a partial step function: `step state label` is the state after
one labelled step, and `none` when the label is not enabled.  The labels carry
every choice of the environment and of the scheduler, so one list of labels is
one interleaving.  This file packages the inductions over runs that the
component proofs use.
-/

namespace Mbstf.Runs

variable {State Label : Type*}

/-- The state after a list of labels, when each of them is enabled in turn. -/
def run (step : State → Label → Option State) (start : State)
    (labels : List Label) : Option State :=
  labels.foldlM step start

/-- States reached by some finite run. -/
def Reachable (step : State → Label → Option State) (start final : State) : Prop :=
  ∃ labels, run step start labels = some final

variable {step : State → Label → Option State}

@[simp]
theorem run_nil (start : State) : run step start [] = some start := rfl

theorem run_cons (start : State) (label : Label) (labels : List Label) :
    run step start (label :: labels) =
      (step start label).bind fun next => run step next labels := rfl

theorem run_cons_eq_some {start final : State} {label : Label} {labels : List Label} :
    run step start (label :: labels) = some final ↔
      ∃ next, step start label = some next ∧ run step next labels = some final := by
  rw [run_cons, Option.bind_eq_some_iff]

theorem run_append (start : State) (first second : List Label) :
    run step start (first ++ second) =
      (run step start first).bind fun middle => run step middle second :=
  List.foldlM_append

theorem run_append_eq_some {start final : State} {first second : List Label} :
    run step start (first ++ second) = some final ↔
      ∃ middle, run step start first = some middle ∧ run step middle second = some final := by
  rw [run_append, Option.bind_eq_some_iff]

theorem run_concat_eq_some {start final : State} {labels : List Label} {label : Label} :
    run step start (labels ++ [label]) = some final ↔
      ∃ middle, run step start labels = some middle ∧ step middle label = some final := by
  rw [run_append, Option.bind_eq_some_iff]
  simp [run_cons]

/-- A property kept by every step is kept by every run. -/
theorem run_invariant {Inv : State → Prop}
    (hstep : ∀ state label next, Inv state → step state label = some next → Inv next)
    {start final : State} {labels : List Label} (hstart : Inv start)
    (hrun : run step start labels = some final) : Inv final := by
  induction labels generalizing start with
  | nil =>
      obtain rfl : start = final := by simpa using hrun
      exact hstart
  | cons label labels ih =>
      obtain ⟨next, hnext, hrest⟩ := run_cons_eq_some.mp hrun
      exact ih (hstep start label next hstart hnext) hrest

theorem Reachable.invariant {Inv : State → Prop}
    (hstep : ∀ state label next, Inv state → step state label = some next → Inv next)
    {start final : State} (hstart : Inv start)
    (hreach : Reachable step start final) : Inv final := by
  obtain ⟨labels, hrun⟩ := hreach
  exact run_invariant hstep hstart hrun

/-- An invariant that may mention the labels taken so far.  `Allowed` is a
condition on label histories; it has to hold of every prefix of the run. -/
theorem run_history_invariant {Inv : List Label → State → Prop}
    {Allowed : List Label → Prop}
    (hstep : ∀ past state label next, Inv past state → Allowed (past ++ [label]) →
      step state label = some next → Inv (past ++ [label]) next)
    {start final : State} {labels : List Label} (hstart : Inv [] start)
    (hallowed : ∀ past, past <+: labels → Allowed past)
    (hrun : run step start labels = some final) : Inv labels final := by
  induction labels using List.reverseRecOn generalizing final with
  | nil =>
      obtain rfl : start = final := by simpa using hrun
      exact hstart
  | append_singleton past label ih =>
      obtain ⟨middle, hpast, hlast⟩ := run_concat_eq_some.mp hrun
      refine hstep past middle label final (ih ?_ hpast) ?_ hlast
      · intro shorter hshorter
        exact hallowed shorter (hshorter.trans (List.prefix_append past [label]))
      · exact hallowed _ List.prefix_rfl

/-- A run goes through when each of its labels is enabled under an invariant. -/
theorem run_isSome {Inv : State → Prop} {labels : List Label}
    (hstep : ∀ state, Inv state → ∀ label ∈ labels,
      ∃ next, step state label = some next ∧ Inv next)
    {start : State} (hstart : Inv start) :
    ∃ final, run step start labels = some final ∧ Inv final := by
  induction labels generalizing start with
  | nil => exact ⟨start, rfl, hstart⟩
  | cons label labels ih =>
      obtain ⟨next, hnext, hinv⟩ := hstep start hstart label List.mem_cons_self
      obtain ⟨final, hrun, hfinal⟩ :=
        ih (fun state hstate other hother =>
          hstep state hstate other (List.mem_cons_of_mem label hother)) hinv
      exact ⟨final, run_cons_eq_some.mpr ⟨next, hnext, hrun⟩, hfinal⟩

/-- The rule for progress: when from every state with an invariant, but those at the goal,
some run keeps the invariant and brings a measure down, some run leads to the goal. -/
theorem exists_run_of_measure {Inv Goal : State → Prop} (measure : State → ℕ)
    (hprogress : ∀ state, Inv state → ¬ Goal state →
      ∃ labels next, run step state labels = some next ∧ Inv next ∧
        measure next < measure state)
    {start : State} (hstart : Inv start) :
    ∃ labels final, run step start labels = some final ∧ Inv final ∧ Goal final := by
  induction hmeasure : measure start using Nat.strong_induction_on generalizing start with
  | _ bound ih =>
      by_cases hgoal : Goal start
      · exact ⟨[], start, rfl, hstart, hgoal⟩
      · obtain ⟨labels, next, hrun, hnext, hless⟩ := hprogress start hstart hgoal
        obtain ⟨more, final, hmore, hfinal⟩ := ih _ (hmeasure ▸ hless) hnext rfl
        exact ⟨labels ++ more, final, run_append_eq_some.mpr ⟨next, hrun, hmore⟩, hfinal⟩

/-- `P` holds in every state a run passes through, the first one included. -/
def Throughout (step : State → Label → Option State) (P : State → Prop) :
    State → List Label → Prop
  | state, [] => P state
  | state, label :: labels =>
      P state ∧ ∀ next, step state label = some next → Throughout step P next labels

/-- Every step the run takes meets a condition on the state before it and on
its label. -/
def Guarded (step : State → Label → Option State) (guard : State → Label → Prop) :
    State → List Label → Prop
  | _, [] => True
  | state, label :: labels =>
      ∀ next, step state label = some next →
        guard state label ∧ Guarded step guard next labels

/-- A run can be checked for its guards. -/
instance Guarded.decidable {guard : State → Label → Prop}
    [∀ state label, Decidable (guard state label)] :
    ∀ start labels, Decidable (Guarded step guard start labels)
  | _, [] => isTrue trivial
  | start, label :: labels =>
      match hnext : step start label with
      | none => isTrue fun next hsome => by rw [hnext] at hsome; cases hsome
      | some next =>
          have : Decidable (Guarded step guard next labels) := Guarded.decidable next labels
          decidable_of_iff (guard start label ∧ Guarded step guard next labels) <| by
            rw [Guarded, hnext]
            exact ⟨fun hboth other hother => Option.some.inj hother ▸ hboth,
              fun hall => hall next rfl⟩

theorem Throughout.start {P : State → Prop} {state : State} {labels : List Label}
    (hall : Throughout step P state labels) : P state := by
  cases labels with
  | nil => exact hall
  | cons label labels => exact hall.1

theorem Throughout.mono {P Q : State → Prop} (himp : ∀ state, P state → Q state)
    {start : State} {labels : List Label}
    (hall : Throughout step P start labels) : Throughout step Q start labels := by
  induction labels generalizing start with
  | nil => exact himp _ hall
  | cons label labels ih =>
      exact ⟨himp _ hall.1, fun next hnext => ih (hall.2 next hnext)⟩

theorem Throughout.final {P : State → Prop} {start final : State} {labels : List Label}
    (hall : Throughout step P start labels)
    (hrun : run step start labels = some final) : P final := by
  induction labels generalizing start with
  | nil =>
      obtain rfl : start = final := by simpa using hrun
      exact hall
  | cons label labels ih =>
      obtain ⟨next, hnext, hrest⟩ := run_cons_eq_some.mp hrun
      exact ih (hall.2 next hnext) hrest

/-- The rule for conditional invariants: a property that each step keeps under
a guard holds throughout every run whose steps all meet the guard. -/
theorem throughout_of_guarded {Inv : State → Prop} {guard : State → Label → Prop}
    (hstep : ∀ state label next, Inv state → guard state label →
      step state label = some next → Inv next)
    {start : State} {labels : List Label} (hstart : Inv start)
    (hguard : Guarded step guard start labels) : Throughout step Inv start labels := by
  induction labels generalizing start with
  | nil => exact hstart
  | cons label labels ih =>
      refine ⟨hstart, fun next hnext => ?_⟩
      obtain ⟨hlabel, hrest⟩ := hguard next hnext
      exact ih (hstep start label next hstart hlabel hnext) hrest

/-- The rule for invariants: what each step keeps holds throughout every run. -/
theorem throughout_of_step {Inv : State → Prop}
    (hstep : ∀ state label next, Inv state → step state label = some next → Inv next)
    {start : State} (hstart : Inv start) (labels : List Label) :
    Throughout step Inv start labels := by
  induction labels generalizing start with
  | nil => exact hstart
  | cons label labels ih =>
      exact ⟨hstart, fun next hnext => ih (hstep start label next hstart hnext)⟩

/-- The rule for properties that cannot be regained: when each step keeps `Aux`, and
leads to a state with the property if and only if it starts from one and meets the
guard, a run ends in a state with the property if and only if it starts from one and
all its steps meet the guard. -/
theorem run_iff_guarded {Aux P : State → Prop} {guard : State → Label → Prop}
    (haux : ∀ state label next, Aux state → step state label = some next → Aux next)
    (hstep : ∀ state label next, Aux state → step state label = some next →
      (P next ↔ P state ∧ guard state label))
    {start final : State} {labels : List Label} (hauxStart : Aux start)
    (hrun : run step start labels = some final) :
    P final ↔ P start ∧ Guarded step guard start labels := by
  induction labels generalizing start with
  | nil =>
      obtain rfl : start = final := by simpa using hrun
      exact ⟨fun hstart => ⟨hstart, trivial⟩, fun hboth => hboth.1⟩
  | cons label labels ih =>
      obtain ⟨next, hnext, hrest⟩ := run_cons_eq_some.mp hrun
      have hguarded : Guarded step guard start (label :: labels) ↔
          guard start label ∧ Guarded step guard next labels := by
        constructor
        · intro hall
          exact hall next hnext
        · intro hboth other hother
          obtain rfl : next = other := Option.some.inj (hnext.symm.trans hother)
          exact hboth
      rw [ih (haux start label next hauxStart hnext) hrest,
        hstep start label next hauxStart hnext, and_assoc, hguarded]

/-- The same for runs in which every step is allowed. -/
theorem run_iff_guarded_of_allowed {Aux P : State → Prop} {allowed guard : State → Label → Prop}
    (hstep : ∀ state label next, Aux state → allowed state label →
      step state label = some next → Aux next ∧ (P next ↔ P state ∧ guard state label))
    {start final : State} {labels : List Label} (hauxStart : Aux start)
    (hallowed : Guarded step allowed start labels) (hrun : run step start labels = some final) :
    P final ↔ P start ∧ Guarded step guard start labels := by
  induction labels generalizing start with
  | nil =>
      obtain rfl : start = final := by simpa using hrun
      exact ⟨fun hstart => ⟨hstart, trivial⟩, fun hboth => hboth.1⟩
  | cons label labels ih =>
      obtain ⟨next, hnext, hrest⟩ := run_cons_eq_some.mp hrun
      obtain ⟨hlabel, hlabels⟩ := hallowed next hnext
      obtain ⟨haux, hkept⟩ := hstep start label next hauxStart hlabel hnext
      have hguarded : Guarded step guard start (label :: labels) ↔
          guard start label ∧ Guarded step guard next labels := by
        constructor
        · intro hall
          exact hall next hnext
        · intro hboth other hother
          obtain rfl : next = other := Option.some.inj (hnext.symm.trans hother)
          exact hboth
      rw [ih haux hlabels hrest, hkept, and_assoc, hguarded]

/-- The exact form: when a step from a good state keeps `Aux`, and keeps `Inv`
if and only if it meets the guard, `Inv` holds throughout a run if and only if
all steps of the run meet the guard. -/
theorem throughout_iff_guarded {Aux Inv : State → Prop} {guard : State → Label → Prop}
    (haux : ∀ state label next, Aux state → Inv state →
      step state label = some next → Aux next)
    (hstep : ∀ state label next, Aux state → Inv state →
      step state label = some next → (Inv next ↔ guard state label))
    {start : State} {labels : List Label} (hauxStart : Aux start) (hstart : Inv start) :
    Throughout step Inv start labels ↔ Guarded step guard start labels := by
  induction labels generalizing start with
  | nil => exact ⟨fun _ => trivial, fun _ => hstart⟩
  | cons label labels ih =>
      constructor
      · intro hall next hnext
        have hinv : Inv next := (hall.2 next hnext).start
        refine ⟨(hstep start label next hauxStart hstart hnext).mp hinv, ?_⟩
        exact (ih (haux start label next hauxStart hstart hnext) hinv).mp (hall.2 next hnext)
      · intro hguard
        refine ⟨hstart, fun next hnext => ?_⟩
        obtain ⟨hlabel, hrest⟩ := hguard next hnext
        have hinv : Inv next := (hstep start label next hauxStart hstart hnext).mpr hlabel
        exact (ih (haux start label next hauxStart hstart hnext) hinv).mpr hrest

/-- The exact form for a property that needs no other to be kept. -/
theorem throughout_iff_of_step {Inv : State → Prop} {guard : State → Label → Prop}
    (hstep : ∀ state label next, Inv state → step state label = some next →
      (Inv next ↔ guard state label))
    {start : State} {labels : List Label} (hstart : Inv start) :
    Throughout step Inv start labels ↔ Guarded step guard start labels :=
  throughout_iff_guarded (fun _ _ _ (_ : True) _ _ => trivial)
    (fun state label next _ hinv hnext => hstep state label next hinv hnext) trivial hstart

/-- The exact form for a property with a strengthening: when a step that meets the guard
keeps the strengthening, and any other step breaks the property itself. -/
theorem throughout_iff_guarded_of_strong {Strong Inv : State → Prop}
    {guard : State → Label → Prop} (hweaken : ∀ state, Strong state → Inv state)
    (hkeeps : ∀ state label next, Strong state → guard state label →
      step state label = some next → Strong next)
    (hbreaks : ∀ state label next, Strong state → ¬ guard state label →
      step state label = some next → ¬ Inv next)
    {start : State} {labels : List Label} (hstart : Strong start) :
    Throughout step Inv start labels ↔ Guarded step guard start labels := by
  have hnext : ∀ state label next, Strong state → step state label = some next →
      Inv next → guard state label := by
    intro state label next hstrong hstep hinv
    by_contra hguard
    exact hbreaks state label next hstrong hguard hstep hinv
  -- A state with the property that was reached from a strong one is strong.
  have haux : ∀ state label next, (Inv state → Strong state) → Inv state →
      step state label = some next → Inv next → Strong next := by
    intro state label next hstrong hinv hstep hinvNext
    have hguard := hnext state label next (hstrong hinv) hstep hinvNext
    exact hkeeps state label next (hstrong hinv) hguard hstep
  refine throughout_iff_guarded haux ?_ (fun _ => hstart) (hweaken start hstart)
  intro state label next hstrong hinv hstep
  constructor
  · exact hnext state label next (hstrong hinv) hstep
  · intro hguard
    exact hweaken next (hkeeps state label next (hstrong hinv) hguard hstep)

/-- The rule for simulations: when every step of `spec` that leads to an allowed state is
matched by a step between related states, so is every run.  `Allowed` is a condition that
a state inherits from later ones. -/
theorem run_simulates {Abstract Concrete Label : Type*}
    {spec : Abstract → Label → Option Abstract} {step : Concrete → Label → Option Concrete}
    (Allowed : Abstract → Prop) (Refines : Abstract → Concrete → Prop)
    (hback : ∀ abstract label next, spec abstract label = some next →
      Allowed next → Allowed abstract)
    (hstep : ∀ abstract concrete label next, Refines abstract concrete →
      spec abstract label = some next → Allowed next →
        ∃ after, step concrete label = some after ∧ Refines next after)
    {start final : Abstract} {concrete : Concrete} {labels : List Label}
    (hstart : Refines start concrete) (hrun : run spec start labels = some final)
    (hallowed : Allowed final) :
    ∃ after, run step concrete labels = some after ∧ Refines final after := by
  induction labels using List.reverseRecOn generalizing final with
  | nil =>
      obtain rfl : start = final := by simpa using hrun
      exact ⟨concrete, rfl, hstart⟩
  | append_singleton labels label ih =>
      obtain ⟨middle, hpast, hlast⟩ := run_concat_eq_some.mp hrun
      obtain ⟨before, hbefore, hmiddle⟩ := ih hpast (hback middle label final hlast hallowed)
      obtain ⟨after, hafter, hfinal⟩ :=
        hstep middle before label final hmiddle hlast hallowed
      exact ⟨after, run_concat_eq_some.mpr ⟨before, hbefore, hafter⟩, hfinal⟩

end Mbstf.Runs
