import Mbstf.Controller.Startup

/-!
# Versions of an object

`ObjectStore::addObject` overwrites, so an id may have several versions, one after the
other.  An `ObjectSendCompleted` has the id only, and its handler deletes the version
that is in the store by then.
-/

namespace Mbstf.Controller

open Std Mbstf.Objects Mbstf.Runs Mbstf.Session

/-- A controller with its threads; the ids whose version in the store has not been
handed to a transmitter; and those of such versions that were deleted. -/
structure Versioned where
  system : System
  unsent : List String
  destroyed : List String

/-- The object that a step hands to a transmitter. -/
def handedBy (system : System) : Label → Option String
  | .packager index (.send _ (.accepted _)) =>
      (system.packagers[index]?).bind fun running =>
        match running.packager.worker with
        | .picked item =>
            if item.objectId ∈ system.objects.store then some item.objectId else none
        | _ => none
  | _ => none

/-- The object that the handler of an `ObjectSendCompleted` deletes in a step. -/
def deletedBy (system : System) : Label → Option String
  | .packager index .deleteSent =>
      (system.packagers[index]?).bind fun running =>
        match running.eventThread with
        | .deleting objectId => some objectId
        | _ => none
  | _ => none

/-- The object that the handler of an `ObjectSendCompleted` looks up in a step, and
finds that it is not to be kept. -/
def condemnedBy (system : System) : Label → Option String
  | .packager index .lookAtSent =>
      (system.packagers[index]?).bind fun running =>
        match running.eventThread with
        | .handling objectId =>
            match system.objects.getMetadata objectId with
            | .ok metadata => if metadata.keepAfterSend then none else some objectId
            | .error _ => none
        | _ => none
  | _ => none

namespace Versioned

variable (setup : Setup)

def start : Versioned := ⟨.start setup, [], []⟩

/-- One step: a version that is added has not been handed over, and a deleted one is
in the store no more. -/
def step (versioned : Versioned) (label : Label) : Option Versioned :=
  (versioned.system.step setup label).map fun next =>
    { system := next
      unsent :=
        (versioned.unsent.filter fun objectId =>
          handedBy versioned.system label ≠ some objectId ∧
            deletedBy versioned.system label ≠ some objectId) ++
          (System.addedBy label).toList
      destroyed :=
        versioned.destroyed ++ (deletedBy versioned.system label).toList.filter
          (· ∈ versioned.unsent) }

/-- Somebody is about to delete the object. -/
def Deleting (system : System) (objectId : String) : Prop :=
  ∃ running ∈ system.packagers, running.eventThread = .deleting objectId

instance (system : System) (objectId : String) : Decidable (Deleting system objectId) := by
  unfold Deleting
  infer_instance

/-- When the handler of an `ObjectSendCompleted` finds that an object is not to be kept,
the version in the store has been handed to a transmitter; and none is added between
that and the deletion. -/
def Undisturbed (versioned : Versioned) (label : Label) : Prop :=
  (∀ objectId ∈ condemnedBy versioned.system label, objectId ∉ versioned.unsent) ∧
    ∀ objectId ∈ System.addedBy label, ¬ Deleting versioned.system objectId

instance (versioned : Versioned) (label : Label) : Decidable (versioned.Undisturbed label) := by
  unfold Undisturbed
  infer_instance

/-- What is about to be deleted has been handed to a transmitter. -/
structure Preserved (versioned : Versioned) : Prop where
  deleting : ∀ objectId, Deleting versioned.system objectId → objectId ∉ versioned.unsent
  destroyed : versioned.destroyed = []

end Versioned

/-! ## Who is about to delete -/

namespace Versioned

variable {setup : Setup} {system next : System} {label : Label} {objectId : String}

theorem deleting_of_origin {running : RunningPackager}
    (horigin : System.Origin setup system next label running)
    (hdeleting : running.eventThread = .deleting objectId) :
    Deleting system objectId ∨ condemnedBy system label = some objectId := by
  cases horigin with
  | same hmem => exact .inl ⟨running, hmem, hdeleting⟩
  | new => cases hdeleting
  | subscribed hmem _ => exact .inl ⟨_, hmem, hdeleting⟩
  | added hmem _ => exact .inl ⟨_, hmem, hdeleting⟩
  | @turned index old packagerLabel turn hlabel hold hturn =>
      obtain hbefore | ⟨rfl, hhandling, metadata, hmetadata, hkeep⟩ :=
        RunningPackager.turn_deleting hturn hdeleting
      · exact .inl ⟨old, List.mem_of_getElem? hold, hbefore⟩
      · right
        subst hlabel
        simp only [condemnedBy, hold, Option.bind_some, hhandling, hmetadata, hkeep]
        rfl

theorem deleting_of_deletedBy (hdeleted : deletedBy system label = some objectId) :
    Deleting system objectId := by
  unfold deletedBy at hdeleted
  split at hdeleted
  case h_1 index =>
      obtain ⟨running, hrunning, hthread⟩ := Option.bind_eq_some_iff.mp hdeleted
      refine ⟨running, List.mem_of_getElem? hrunning, ?_⟩
      split at hthread
      case h_1 other hother =>
          rw [hother, Option.some.inj hthread]
      case h_2 => cases hthread
  case h_2 => cases hdeleted

/-- What comes to be unsent was added. -/
theorem mem_unsent_of_step {versioned next : Versioned}
    (hstep : step setup versioned label = some next) (hunsent : objectId ∈ next.unsent) :
    objectId ∈ versioned.unsent ∨ System.addedBy label = some objectId := by
  obtain ⟨after, _, rfl⟩ := Option.map_eq_some_iff.mp hstep
  cases List.mem_append.mp hunsent with
  | inl hold => exact .inl (List.mem_of_mem_filter hold)
  | inr hadded => exact .inr (Option.mem_toList.mp hadded)

/-- In an undisturbed step nothing unsent is deleted, or comes to be about to be. -/
theorem Preserved.step {versioned next : Versioned} (hpreserved : versioned.Preserved)
    (hundisturbed : versioned.Undisturbed label)
    (hstep : step setup versioned label = some next) : next.Preserved where
  deleting := by
    intro objectId hdeleting hunsent
    have hbefore := mem_unsent_of_step hstep hunsent
    obtain ⟨after, hafter, rfl⟩ := Option.map_eq_some_iff.mp hstep
    obtain ⟨running, hrunning, hthread⟩ := hdeleting
    cases deleting_of_origin (System.step_origin hafter hrunning) hthread with
    | inl hold =>
        exact hbefore.elim (hpreserved.deleting objectId hold)
          fun hadded => hundisturbed.2 objectId hadded hold
    | inr hcondemned =>
        refine hbefore.elim (hundisturbed.1 objectId hcondemned) fun hadded => ?_
        cases label with
        | addObject added data metadata => cases hcondemned
        | _ => cases hadded
  destroyed := by
    obtain ⟨after, _, rfl⟩ := Option.map_eq_some_iff.mp hstep
    have hnone : (deletedBy versioned.system label).toList.filter (· ∈ versioned.unsent) = [] := by
      apply List.filter_eq_nil_iff.mpr
      intro objectId hdeleted
      rw [decide_eq_true_eq]
      apply hpreserved.deleting
      exact deleting_of_deletedBy (Option.mem_toList.mp hdeleted)
    change versioned.destroyed ++ _ = []
    rw [hpreserved.destroyed, hnone]
    rfl

/-- An object that is found not to be kept is about to be deleted. -/
theorem deleting_of_condemnedBy {next : System}
    (hstep : system.step setup label = some next)
    (hcondemned : condemnedBy system label = some objectId) :
    Deleting next objectId ∧ handedBy system label = none ∧ deletedBy system label = none := by
  unfold condemnedBy at hcondemned
  split at hcondemned
  case h_2 => cases hcondemned
  case h_1 index =>
      obtain ⟨running, hrunning, hlookup⟩ := Option.bind_eq_some_iff.mp hcondemned
      refine ⟨?_, rfl, rfl⟩
      split at hlookup
      case h_2 => cases hlookup
      case h_1 other hhandling =>
          split at hlookup
          case h_2 => cases hlookup
          case h_1 metadata hmetadata =>
              obtain ⟨hkeep, hother⟩ := Option.ite_none_left_eq_some.mp hlookup
              obtain rfl := Option.some.inj hother
              simp only [System.step, System.packagerStep, hrunning, RunningPackager.turn,
                hhandling, RunningPackager.lookAtSent, hmetadata, if_neg hkeep,
                Option.map_some, Option.some.injEq] at hstep
              subst hstep
              exact ⟨_, List.mem_set (List.getElem?_eq_some_iff.mp hrunning).1 _, rfl⟩

/-- A step that leaves nothing about to be deleted that is unsent was undisturbed. -/
theorem Preserved.undisturbed {versioned next : Versioned} (hpreserved : next.Preserved)
    (hstep : versioned.step setup label = some next) : versioned.Undisturbed label := by
  obtain ⟨after, hafter, rfl⟩ := Option.map_eq_some_iff.mp hstep
  constructor
  · intro objectId hcondemned hunsent
    obtain ⟨hdeleting, hhanded, hdeleted⟩ := deleting_of_condemnedBy hafter hcondemned
    apply hpreserved.deleting objectId hdeleting
    apply List.mem_append_left
    rw [List.mem_filter, hhanded, hdeleted]
    exact ⟨hunsent, rfl⟩
  · intro objectId hadded hdeleting
    have hafter' : Deleting after objectId := by
      cases label with
      | addObject added data metadata =>
          obtain ⟨_, hnext⟩ := Option.ite_none_right_eq_some.mp hafter
          obtain rfl := Option.some.inj hnext
          exact hdeleting
      | _ => cases hadded
    apply hpreserved.deleting objectId hafter'
    exact List.mem_append_right _ (Option.mem_toList.mpr hadded)

theorem preserved_start : (start setup).Preserved where
  deleting := by
    rintro objectId ⟨running, hrunning, _⟩
    cases hrunning
  destroyed := rfl

/-- The handlers of `ObjectSendCompleted` neither delete nor decide to delete a version
that was not handed to a transmitter if and only if they are undisturbed. -/
theorem throughout_preserved_iff (labels : List Label) :
    Throughout (step setup) Preserved (start setup) labels ↔
      Guarded (step setup) Undisturbed (start setup) labels := by
  refine throughout_iff_of_step ?_ preserved_start
  intro versioned label next hpreserved hnext
  constructor
  · exact fun hafter => hafter.undisturbed hnext
  · exact fun hundisturbed => hpreserved.step hundisturbed hnext

/-- In a run whose handlers of `ObjectSendCompleted` are undisturbed no version of an
object is deleted before it was handed to a transmitter. -/
theorem throughout_destroyed_eq_nil {labels : List Label}
    (hguarded : Guarded (step setup) Undisturbed (start setup) labels) :
    Throughout (step setup) (fun versioned => versioned.destroyed = []) (start setup)
      labels :=
  ((throughout_preserved_iff labels).mpr hguarded).mono fun _ hpreserved =>
    hpreserved.destroyed

/-- An object is added and sent, and its second version is added after some steps. -/
def addTwice (before after : List Label) : List Label :=
  let addOne : Label := .addObject "1" [7] (.new 100 "1" "video/mp4"
    "http://example.com/s1.mp4" "http://example.com/s1.mp4" "acq1" 90 none none none)
  List.replicate 6 .construct ++ [addOne, .popEvent, .dispatch, .handle, .checkPackager,
    .getObjectListPackager, .addItem, .packager 0 (.beginRound false),
    .packager 0 (.send 0 (.accepted 1)), .packager 0 .popFront, .packager 0 (.runOne [1]),
    .packager 0 .popSendCompleted, .packager 0 .dispatchSendCompleted] ++ before ++ [addOne] ++
      after

theorem addTwice_undisturbed :
    (run (step System.streamingSetup) (start System.streamingSetup) (addTwice
        [.packager 0 .lookAtSent, .packager 0 .deleteSent] [.popEvent, .dispatch])).isSome ∧
      Throughout (step System.streamingSetup) (fun versioned => versioned.destroyed = [])
        (start System.streamingSetup) (addTwice
          [.packager 0 .lookAtSent, .packager 0 .deleteSent] [.popEvent, .dispatch]) :=
  ⟨by decide +kernel, throughout_destroyed_eq_nil (by decide +kernel)⟩

theorem addTwice_destroyed :
    ∃ final, run (step System.streamingSetup) (start System.streamingSetup)
        (addTwice [] [.packager 0 .lookAtSent, .packager 0 .deleteSent]) = some final ∧
      final.destroyed = ["1"] ∧ final.system.objects.store.keys = [] ∧
      final.system.objects.events.head? = some (.objectAdded "1") := by
  have hends : (run (step System.streamingSetup) (start System.streamingSetup)
      (addTwice [] [.packager 0 .lookAtSent, .packager 0 .deleteSent])).any (fun final =>
        final.destroyed = ["1"] ∧ final.system.objects.store.keys = [] ∧
          final.system.objects.events.head? = some (.objectAdded "1")) = true := by
    decide +kernel
  obtain ⟨final, hrun, hfinal⟩ := (Option.any_eq_true _ _).mp hends
  exact ⟨final, hrun, of_decide_eq_true hfinal⟩

end Versioned

end Mbstf.Controller
