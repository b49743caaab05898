import Mbstf.Core.Runs
import Mbstf.Objects.Store

/-!
# What the events of a store tell

Subscribers learn what is in a store from its events alone: an id is there from an
`ObjectAdded` for it to the next `ObjectDeleted`.  Every mutator decides for itself
whether to send an event.
-/

namespace Mbstf.Objects

open Runs

/-- What a subscriber knows after one more event. -/
def StoreEvent.apply (known : Finset String) : StoreEvent → Finset String
  | .objectAdded objectId => insert objectId known
  | .objectDeleted objectId => known.erase objectId

/-- What a subscriber knows after all events. -/
def replay (events : List StoreEvent) : Finset String := events.foldl StoreEvent.apply ∅

namespace ObjectStore

/-- The store with one call after another. -/
def step (objects : ObjectStore) (call : Call) : Option ObjectStore := some (objects.exec call)

/-- The events of a store tell what is in it. -/
def Mirrored (objects : ObjectStore) : Prop :=
  ∀ objectId, objectId ∈ replay objects.events ↔ objectId ∈ objects.store

/-- A call that takes nothing out of the store without an event. -/
def Announced (objects : ObjectStore) : Call → Prop
  | .addObject _ _ _ => True
  | .deleteObject _ => True
  | .removeObject objectId => objectId ∉ objects.store
  | .removeObjects objectIds => ∀ objectId ∈ objectIds, objectId ∉ objects.store

instance : ∀ (objects : ObjectStore) (call : Call), Decidable (Announced objects call)
  | _, .addObject _ _ _ => isTrue trivial
  | _, .deleteObject _ => isTrue trivial
  | objects, .removeObject objectId => inferInstanceAs (Decidable (objectId ∉ objects.store))
  | objects, .removeObjects objectIds =>
      inferInstanceAs (Decidable (∀ objectId ∈ objectIds, objectId ∉ objects.store))

/-! ## One call -/

/-- The event a call sends. -/
def Call.event : Call → Option StoreEvent
  | .addObject objectId _ _ => some (.objectAdded objectId)
  | .deleteObject objectId => some (.objectDeleted objectId)
  | .removeObject _ => none
  | .removeObjects _ => none

theorem removeObjects_events (objects : ObjectStore) (objectIds : List String) :
    (objects.removeObjects objectIds).1.events = objects.events := by
  rw [removeObjects]
  induction objectIds generalizing objects with
  | nil => rfl
  | cons removed objectIds ih =>
      rw [List.foldl_cons, ih, removeListed]
      split
      · rfl
      · rfl

theorem exec_events (objects : ObjectStore) (call : Call) :
    (objects.exec call).events = objects.events ++ call.event.toList := by
  cases call with
  | addObject added data metadata => rfl
  | deleteObject deleted => rfl
  | removeObject removed =>
      rw [exec, removeObject]
      split
      · exact (List.append_nil _).symm
      · exact (List.append_nil _).symm
  | removeObjects removed =>
      rw [exec, removeObjects_events]
      exact (List.append_nil _).symm

theorem mem_exec (objects : ObjectStore) (call : Call) (objectId : String) :
    objectId ∈ (objects.exec call).store ↔
      if objectId ∈ call.objectIds then call.passed.isSome = true
      else objectId ∈ objects.store := by
  have hmem : ∀ store : Std.ExtTreeMap String Object, objectId ∈ store ↔
      store[objectId]?.isSome = true := fun store => Std.ExtTreeMap.mem_iff_isSome_getElem?
  rw [hmem, getElem?_exec]
  split
  · rw [Option.isSome_map]
  · exact (hmem objects.store).symm

theorem mem_replay_exec (objects : ObjectStore) (call : Call) (objectId : String) :
    objectId ∈ replay (objects.exec call).events ↔
      if call.event.isSome ∧ objectId ∈ call.objectIds then call.passed.isSome = true
      else objectId ∈ replay objects.events := by
  rw [exec_events, replay, List.foldl_append]
  change objectId ∈ call.event.toList.foldl StoreEvent.apply (replay objects.events) ↔ _
  cases call with
  | addObject added data metadata =>
      by_cases hsame : objectId = added
      · simp [Call.event, Call.objectIds, Call.passed, StoreEvent.apply, hsame]
      · simp [Call.event, Call.objectIds, StoreEvent.apply, hsame]
  | deleteObject deleted =>
      by_cases hsame : objectId = deleted
      · simp [Call.event, Call.objectIds, Call.passed, StoreEvent.apply, hsame]
      · simp [Call.event, Call.objectIds, StoreEvent.apply, hsame]
  | removeObject removed => simp [Call.event]
  | removeObjects removed => simp [Call.event]

/-- A call that sends an event keeps the mirror; one that sends none keeps it exactly when
nothing it is about is in the store. -/
theorem mirrored_exec_iff {objects : ObjectStore} (hmirrored : objects.Mirrored) (call : Call) :
    (objects.exec call).Mirrored ↔ objects.Announced call := by
  have hsilent : call.event = none → call.passed = none →
      ((objects.exec call).Mirrored ↔
        ∀ objectId ∈ call.objectIds, objectId ∉ objects.store) := by
    intro hevent hpassed
    have hone : ∀ objectId, (objectId ∈ replay (objects.exec call).events ↔
        objectId ∈ (objects.exec call).store) ↔
          (objectId ∈ call.objectIds → objectId ∉ objects.store) := by
      intro objectId
      rw [mem_replay_exec, mem_exec, hevent, hpassed, hmirrored objectId]
      by_cases hmem : objectId ∈ call.objectIds
      · simp [hmem]
      · simp [hmem]
    exact forall_congr' hone
  have hloud : call.event.isSome = true → (objects.exec call).Mirrored := by
    intro hevent objectId
    rw [mem_replay_exec, mem_exec, hmirrored objectId]
    simp only [hevent, true_and]
  cases call with
  | addObject added data metadata => exact iff_of_true (hloud rfl) trivial
  | deleteObject deleted => exact iff_of_true (hloud rfl) trivial
  | removeObject removed =>
      rw [hsilent rfl rfl]
      exact List.forall_mem_singleton
  | removeObjects removed => exact hsilent rfl rfl

/-- The events of a store tell what is in it after every call of a run exactly when no
call of the run removes, without an event, an object that is there. -/
theorem mirrored_iff_announced (calls : List Call) :
    Throughout step Mirrored new calls ↔ Guarded step Announced new calls := by
  have hstart : new.Mirrored := by
    intro objectId
    simp [new, replay]
  refine throughout_iff_of_step ?_ hstart
  intro objects call next hmirrored hnext
  obtain rfl := Option.some.inj hnext
  exact mirrored_exec_iff hmirrored call

/-- An object is added and then removed; the subscribers think it is there. -/
theorem removal_not_announced :
    ¬ Throughout step Mirrored new
        [.addObject "1" [7] taggedMetadata, .removeObject "1"] ∧
      ¬ Throughout step Mirrored new
        [.addObject "1" [7] taggedMetadata, .removeObjects ["1", "2", "1"]] := by
  constructor
  · intro hall
    have hmirrored := ((hall.2 _ rfl).2 _ rfl) "1"
    exact absurd hmirrored (by decide +kernel)
  · intro hall
    have hmirrored := ((hall.2 _ rfl).2 _ rfl) "1"
    exact absurd hmirrored (by decide +kernel)

end ObjectStore

end Mbstf.Objects
