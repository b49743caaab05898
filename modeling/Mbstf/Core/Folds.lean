import Mathlib

/-!
# Folds

Rules for a value that a list of items overwrites, and for a loop whose body may fail.
-/

namespace Mbstf.Folds

/-- Overwriting a value by whatever an item has keeps the last one. -/
theorem foldl_getD {Item Value : Type*} (read : Item → Option Value) (items : List Item)
    (value : Value) :
    items.foldl (fun current item => (read item).getD current) value =
      (items.filterMap read).getLast?.getD value := by
  induction items using List.reverseRecOn with
  | nil => rfl
  | append_singleton items item ih =>
      rw [List.foldl_concat, ih, List.filterMap_append]
      cases hread : read item with
      | none => simp [hread]
      | some found => simp [hread]

/-- Items that say nothing may be left out. -/
theorem filterMap_filter_of_imp {Item Value : Type*} {read : Item → Option Value}
    {test : Item → Bool} {items : List Item}
    (hread : ∀ item ∈ items, read item ≠ none → test item) :
    (items.filter test).filterMap read = items.filterMap read := by
  rw [List.filterMap_filter]
  apply List.filterMap_congr
  intro item hitem
  by_cases hnone : read item = none
  · rw [hnone, ite_self]
  · rw [if_pos (hread item hitem hnone)]

section

variable {State Item Failure : Type*} {act : State → Item → Except Failure State}
variable {state next : State} {rest : List Item}

theorem map_eq_ok {Value Result : Type*} {result : Except Failure Value} {f : Value → Result}
    {mapped : Result} (hmap : result.map f = .ok mapped) :
    ∃ value, result = .ok value ∧ f value = mapped := by
  cases result with
  | error failure => cases hmap
  | ok value => exact ⟨value, rfl, Except.ok.inj hmap⟩

theorem toOption_eq_some {Value : Type*} {result : Except Failure Value} {value : Value}
    (hsome : result.toOption = some value) : result = .ok value := by
  cases result with
  | error failure => cases hsome
  | ok other => exact congrArg Except.ok (Option.some.inj hsome)

/-- What each step keeps, a run of steps keeps. -/
theorem foldlM_keeps (Kept : State → Prop)
    (hact : ∀ state item next, act state item = .ok next → Kept state → Kept next)
    {items : List Item} {state next : State} (hrun : items.foldlM act state = .ok next)
    (hstate : Kept state) : Kept next := by
  induction items generalizing state with
  | nil =>
      obtain rfl : state = next := Except.ok.inj hrun
      exact hstate
  | cons item items ih =>
      rw [List.foldlM_cons] at hrun
      cases hitem : act state item with
      | error failure =>
          rw [hitem] at hrun
          cases hrun
      | ok middle =>
          rw [hitem] at hrun
          exact ih hrun (hact state item middle hitem hstate)

/-- A first step that succeeds. -/
theorem foldlM_cons_ok {item : Item} (hitem : act state item = .ok next) :
    (item :: rest).foldlM act state = rest.foldlM act next := by
  rw [List.foldlM_cons, hitem]
  rfl

/-- First steps that succeed. -/
theorem foldlM_append_ok {first : List Item} (hfirst : first.foldlM act state = .ok next) :
    (first ++ rest).foldlM act state = rest.foldlM act next := by
  rw [List.foldlM_append, hfirst]
  rfl

/-- Each item meets a condition on the state that the items before it lead to. -/
def EachMeets (act : State → Item → Except Failure State) (condition : State → Item → Prop) :
    State → List Item → Prop
  | _, [] => True
  | state, item :: items =>
      condition state item ∧ ∀ next, act state item = .ok next →
        EachMeets act condition next items

/-- When a step succeeds exactly under a condition, a run succeeds exactly when each of its
items meets the condition. -/
theorem foldlM_ok_iff {condition : State → Item → Prop}
    (hact : ∀ state item, (∃ next, act state item = .ok next) ↔ condition state item)
    (items : List Item) (state : State) :
    (∃ final, items.foldlM act state = .ok final) ↔ EachMeets act condition state items := by
  induction items generalizing state with
  | nil => exact ⟨fun _ => trivial, fun _ => ⟨state, rfl⟩⟩
  | cons item items ih =>
      constructor
      · rintro ⟨final, hrun⟩
        cases hitem : act state item with
        | error failure =>
            rw [List.foldlM_cons, hitem] at hrun
            cases hrun
        | ok next =>
            rw [foldlM_cons_ok hitem] at hrun
            refine ⟨(hact state item).mp ⟨next, hitem⟩, fun other hother => ?_⟩
            obtain rfl := Except.ok.inj (hitem.symm.trans hother)
            exact (ih next).mp ⟨final, hrun⟩
      · rintro ⟨hcondition, hrest⟩
        obtain ⟨next, hnext⟩ := (hact state item).mpr hcondition
        rw [foldlM_cons_ok hnext]
        exact (ih next).mpr (hrest next hnext)

end

end Mbstf.Folds
