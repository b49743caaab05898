import Mbstf.Controller.System

/-!
# No dangling object ids

An object id is in transit while it is in an `ObjectAdded` event, with the thread of
the store, or in a packager.  When the ids of the added objects are all different, an
id is in transit at one place at most, and what is in transit is in the store: the
only step that deletes an object takes its id out of transit.
-/

namespace Mbstf.Controller

open Std Mbstf.Objects Mbstf.Session Mbstf.Runs

/-- The object id of an `ObjectAdded`. -/
def addedId : StoreEvent → Option String
  | .objectAdded objectId => some objectId
  | .objectDeleted _ => none

/-- The object ids of the `ObjectAdded` events in the queue. -/
def pendingAdded (objects : ObjectStore) : List String := objects.events.filterMap addedId

namespace System

/-- The ids in transit, each stage once. -/
def inTransit (system : System) : Multiset String :=
  (pendingAdded system.objects : Multiset String) +
    (system.storeThread.objectIds : Multiset String) +
      Held.held RunningPackager.inTransit system.packagers

def PackagersSound (system : System) : Prop :=
  ∀ running ∈ system.packagers, running.Sound

/-! ## What a step does to the ids -/

/-- Ids leave, or none does; the store keeps its ids. -/
structure Moved (system next : System) : Prop where
  inTransit : ∃ released, system.inTransit = next.inTransit + released
  stored : ∀ objectId, objectId ∈ next.objects.store ↔ objectId ∈ system.objects.store
  added : next.books.added = system.books.added

/-- An object was added. -/
structure Added (system next : System) (added : String) : Prop where
  inTransit : next.inTransit = system.inTransit + {added}
  stored : ∀ objectId, objectId ∈ next.objects.store ↔
    objectId = added ∨ objectId ∈ system.objects.store
  added : next.books.added = system.books.added ++ [added]

/-- An object was deleted. -/
structure Deleted (system next : System) (deleted : String) : Prop where
  inTransit : system.inTransit = next.inTransit + {deleted}
  stored : ∀ objectId, objectId ∈ next.objects.store ↔
    objectId ≠ deleted ∧ objectId ∈ system.objects.store
  added : next.books.added = system.books.added

/-- What a step does, one that adds the object `added` if any; a lookup throws only
for an id in transit that is not in the store. -/
structure Stepped (added : Option String) (system next : System) : Prop where
  sound : next.PackagersSound
  failed : ∀ objectId ∈ next.books.failed, objectId ∈ system.books.failed ∨
    (objectId ∈ system.inTransit ∧ objectId ∉ system.objects.store)
  ids : match added with
    | some objectId => Added system next objectId
    | none => Moved system next ∨ ∃ deleted, Deleted system next deleted

variable {setup : Setup} {system next : System}

/-- A step that leaves the ids of the store alone. -/
theorem Stepped.moved (released : Multiset String) (hsound : next.PackagersSound)
    (hids : system.inTransit = next.inTransit + released)
    (hstored : ∀ objectId, objectId ∈ next.objects.store ↔ objectId ∈ system.objects.store)
    (hadded : next.books.added = system.books.added)
    (hfailed : next.books.failed = system.books.failed) : Stepped none system next where
  sound := hsound
  failed := by
    intro objectId hmem
    rw [hfailed] at hmem
    exact .inl hmem
  ids := .inl ⟨⟨released, hids⟩, hstored, hadded⟩

/-- A step that leaves all ids alone, those of the store included. -/
theorem Stepped.same (hsound : next.PackagersSound) (hids : next.inTransit = system.inTransit)
    (hstored : ∀ objectId, objectId ∈ next.objects.store ↔ objectId ∈ system.objects.store)
    (hadded : next.books.added = system.books.added)
    (hfailed : next.books.failed = system.books.failed) : Stepped none system next :=
  .moved 0 hsound (by rw [hids, add_zero]) hstored hadded hfailed

/-- The id that the thread of the store has is in transit. -/
theorem mem_inTransit_of_storeThread {objectId : String}
    (hthread : system.storeThread.objectIds = [objectId]) : objectId ∈ system.inTransit := by
  simp [inTransit, hthread]

theorem inTransit_setPackager (setup : Setup) (system : System) :
    (system.setPackager setup).inTransit = system.inTransit := by
  rw [inTransit, inTransit, setPackager, Held.held_concat, RunningPackager.inTransit_new,
    add_zero]

theorem PackagersSound.setPackager (hsound : system.PackagersSound) (setup : Setup) :
    (system.setPackager setup).PackagersSound := by
  intro running hmem
  cases List.mem_append.mp hmem with
  | inl hold => exact hsound running hold
  | inr hnew =>
      rw [List.mem_singleton.mp hnew]
      exact RunningPackager.sound_new setup.destIpAddr

theorem Stepped.subscribeToPackager (hsound : system.PackagersSound) {index : ℕ}
    {running : RunningPackager} (hrunning : system.packagers[index]? = some running)
    (rest : List ConstructorStep) (replacing : Option ℕ) :
    Stepped none system { system with
      remaining := rest
      replacing := replacing
      subscribing := none
      packagers := system.packagers.set index { running with subscribed := true } } := by
  have hold : running.Sound := hsound running (List.mem_of_getElem? hrunning)
  have hsubscribed : ({ running with subscribed := true } : RunningPackager).Sound :=
    ⟨hold.noDeadline, hold.picked, hold.sent, hold.queued⟩
  refine .same (Held.forall_mem_set hsound index hsubscribed) ?_ (fun _ => Iff.rfl) rfl rfl
  rw [inTransit, inTransit, Held.held_set_of_eq hrunning]
  rfl

theorem mem_addObject (objects : ObjectStore) (added objectId : String) (data : ObjectData)
    (metadata : Metadata) :
    objectId ∈ (objects.addObject added data metadata).store ↔
      objectId = added ∨ objectId ∈ objects.store := by
  rw [ExtTreeMap.mem_iff_isSome_getElem?, ExtTreeMap.mem_iff_isSome_getElem?,
    ObjectStore.addObject, ObjectStore.getElem?_insertOrAssign]
  by_cases hsame : added = objectId
  · simp [hsame]
  · simp [hsame, Ne.symm hsame]

theorem Stepped.addObject (hsound : system.PackagersSound) (objectId : String)
    (data : ObjectData) (metadata : Metadata) :
    Stepped (some objectId) system { system with
      objects := system.objects.addObject objectId data metadata
      books := { system.books with added := system.books.added ++ [objectId] } } := by
  refine ⟨hsound, fun _ hmem => .inl hmem, ?_, ?_, rfl⟩
  · have hpending : pendingAdded (system.objects.addObject objectId data metadata) =
        pendingAdded system.objects ++ [objectId] := by
      rw [pendingAdded, ObjectStore.addObject, List.filterMap_append]
      rfl
    rw [inTransit, inTransit, hpending, Held.coe_concat]
    abel
  · intro other
    exact mem_addObject system.objects objectId other data metadata

/-- The event in front of the queue, and those behind it. -/
theorem pendingAdded_of_events {objects : ObjectStore} {event : StoreEvent}
    {rest : List StoreEvent} (hevents : objects.events = event :: rest) :
    pendingAdded objects = (StoreThread.popped event).objectIds ++ rest.filterMap addedId := by
  rw [pendingAdded, hevents]
  cases event with
  | objectAdded objectId => rfl
  | objectDeleted objectId => rfl

theorem Stepped.popped (hsound : system.PackagersSound)
    (hthread : system.storeThread = .waiting) {event : StoreEvent} {rest : List StoreEvent}
    (hevents : system.objects.events = event :: rest) :
    Stepped none system { system with
      objects := { system.objects with events := rest }
      storeThread := .popped event } := by
  refine .same hsound ?_ (fun _ => Iff.rfl) rfl rfl
  rw [inTransit, inTransit, pendingAdded_of_events hevents, hthread, ← Multiset.coe_add]
  change (rest.filterMap addedId : Multiset String) + _ + _ =
    _ + _ + (([] : List String) : Multiset String) + _
  rw [Multiset.coe_nil]
  abel

/-- The thread of the store is done with its object. -/
theorem inTransit_of_storeThread {objectId : String}
    (hthread : system.storeThread.objectIds = [objectId]) :
    system.inTransit = inTransit { system with storeThread := .waiting } + {objectId} := by
  rw [inTransit, inTransit, hthread, Multiset.coe_singleton]
  change _ = _ + (([] : List String) : Multiset String) + _ + _
  rw [Multiset.coe_nil]
  abel

/-- The object of the thread of the store is added to a packager. -/
theorem Stepped.add (hsound : system.PackagersSound) {objectId : String}
    (hthread : system.storeThread.objectIds = [objectId]) {index : ℕ} {running : RunningPackager}
    (hrunning : system.packagers[index]? = some running) {after : StoreThread}
    (hafter : after.objectIds = []) :
    Stepped none system { system with
      storeThread := after
      packagers := system.packagers.set index (running.add objectId)
      books := { system.books with
        handed := system.books.handed ++ [(index, objectId)] } } := by
  have hold : running.Sound := hsound running (List.mem_of_getElem? hrunning)
  refine .same (Held.forall_mem_set hsound index (hold.add objectId)) ?_
    (fun _ => Iff.rfl) rfl rfl
  rw [inTransit_of_storeThread hthread, inTransit, inTransit, hafter,
    Held.held_set_take hrunning (hold.inTransit_add objectId)]
  exact (add_assoc _ _ _).symm

theorem Stepped.drop (hsound : system.PackagersSound) {objectId : String}
    (hthread : system.storeThread.objectIds = [objectId]) :
    Stepped none system (system.drop objectId) :=
  .moved {objectId} hsound (inTransit_of_storeThread hthread) (fun _ => Iff.rfl) rfl rfl

theorem Stepped.dropFailed (hsound : system.PackagersSound) {objectId : String}
    (hthread : system.storeThread.objectIds = [objectId])
    (habsent : objectId ∉ system.objects.store) :
    Stepped none system (system.dropFailed objectId) where
  sound := hsound
  failed := by
    intro other hmem
    cases List.mem_append.mp hmem with
    | inl hold => exact .inl hold
    | inr hnew =>
        rw [List.mem_singleton.mp hnew]
        exact .inr ⟨mem_inTransit_of_storeThread hthread, habsent⟩
  ids := .inl ⟨⟨{objectId}, inTransit_of_storeThread hthread⟩, fun _ => Iff.rfl, rfl⟩

theorem mem_keepAfterSend (objects : ObjectStore) (kept objectId : String) :
    objectId ∈ (keepAfterSend objects kept).store ↔ objectId ∈ objects.store := by
  unfold keepAfterSend
  split
  case h_1 => exact Iff.rfl
  case h_2 object hfound =>
      have hkept : kept ∈ objects.store := by
        rw [ExtTreeMap.mem_iff_isSome_getElem?, hfound]
        rfl
      rw [ExtTreeMap.mem_insert]
      constructor
      · rintro (hsame | hold)
        · rw [LawfulEqCmp.compare_eq_iff_eq] at hsame
          exact hsame ▸ hkept
        · exact hold
      · exact Or.inr

theorem pendingAdded_keepAfterSend (objects : ObjectStore) (kept : String) :
    pendingAdded (keepAfterSend objects kept) = pendingAdded objects := by
  unfold keepAfterSend
  split
  · rfl
  · rfl

theorem Stepped.manifest (hsound : system.PackagersSound) {objectId : String}
    (hthread : system.storeThread.objectIds = [objectId]) :
    Stepped none system { system with
      objects := keepAfterSend system.objects objectId
      storeThread := .manifest objectId } := by
  refine .same hsound ?_ (mem_keepAfterSend system.objects objectId) rfl rfl
  rw [inTransit, inTransit, hthread, pendingAdded_keepAfterSend]
  rfl

/-- The thread of the store goes on with the object it has, or with none. -/
theorem Stepped.onward (hsound : system.PackagersSound) {before : StoreThread}
    (hthread : system.storeThread = before) (after : StoreThread)
    (hids : after.objectIds = before.objectIds) (manifestHandler : Bool) :
    Stepped none system { system with
      storeThread := after
      manifestHandler := manifestHandler } := by
  refine .same hsound ?_ (fun _ => Iff.rfl) rfl rfl
  rw [inTransit, inTransit, hthread, hids]

/-- An invalid manifest is done with, whether or not its packager goes too. -/
theorem Stepped.rejected (hsound : system.PackagersSound) {objectId : String}
    (hthread : system.storeThread.objectIds = [objectId]) :
    Stepped none system (system.rejectManifest objectId) :=
  .moved {objectId} hsound (inTransit_of_storeThread hthread) (fun _ => Iff.rfl) rfl rfl

theorem Stepped.unset (hsound : system.PackagersSound) {objectId : String}
    (hthread : system.storeThread.objectIds = [objectId]) :
    Stepped none system (system.rejectManifest objectId).unsetPackager := by
  refine .moved {objectId} hsound ?_ (fun _ => Iff.rfl) rfl rfl
  rw [inTransit_of_storeThread hthread, inTransit, inTransit, unsetPackager, objectIds_leaving]
  rfl

theorem Stepped.setObjectListPackager (hsound : system.PackagersSound) {objectId : String}
    (hthread : system.storeThread = .setting objectId) {after : StoreThread}
    (hafter : after.objectIds = [objectId]) :
    Stepped none system { system.setPackager setup with storeThread := after } := by
  refine .same (hsound.setPackager setup) ?_ (fun _ => Iff.rfl) rfl rfl
  rw [← inTransit_setPackager setup system, inTransit, inTransit, hafter]
  change _ = _ + (system.storeThread.objectIds : Multiset String) + _
  rw [hthread]
  rfl

theorem mem_deleteObject (objects : ObjectStore) (deleted objectId : String) :
    objectId ∈ (objects.deleteObject deleted).store ↔
      objectId ≠ deleted ∧ objectId ∈ objects.store := by
  rw [ExtTreeMap.mem_iff_isSome_getElem?, ExtTreeMap.mem_iff_isSome_getElem?,
    ObjectStore.deleteObject, ObjectStore.getElem?_erase]
  by_cases hsame : deleted = objectId
  · simp [hsame]
  · simp [hsame, Ne.symm hsame]

theorem pendingAdded_deleteObject (objects : ObjectStore) (deleted : String) :
    pendingAdded (objects.deleteObject deleted) = pendingAdded objects := by
  rw [pendingAdded, ObjectStore.deleteObject, List.filterMap_append]
  exact List.append_nil _

theorem Stepped.packager (hsound : system.PackagersSound) {index : ℕ}
    {running : RunningPackager} (hrunning : system.packagers[index]? = some running)
    {label : PackagerLabel} {turn : Turn}
    (hturn : running.turn (system.abandoned index) system.objects label = some turn) :
    Stepped none system { system with
      objects := turn.objects
      packagers := system.packagers.set index turn.running
      books := { system.books with failed := system.books.failed ++ turn.failed } } := by
  have hmem : running ∈ system.packagers := List.mem_of_getElem? hrunning
  have hturned := (hsound running hmem).turn hturn
  refine ⟨Held.forall_mem_set hsound index hturned.sound, ?_, ?_⟩
  · intro objectId hfailed
    cases List.mem_append.mp hfailed with
    | inl hold => exact .inl hold
    | inr hnew =>
        obtain ⟨hid, habsent⟩ := hturned.failed objectId hnew
        have hheld : objectId ∈ Held.held RunningPackager.inTransit system.packagers :=
          (Held.mem_held _).mpr ⟨running, hmem, hid⟩
        exact .inr ⟨Multiset.mem_add.mpr (.inr hheld), habsent⟩
  · obtain ⟨hobjects, released, hids⟩ | ⟨deleted, hobjects, hids⟩ := hturned.ids
    · refine .inl ⟨⟨released, ?_⟩, ?_, rfl⟩
      · rw [inTransit, inTransit, Held.held_set_release hrunning hids, hobjects, ← add_assoc]
      · intro objectId
        rw [hobjects]
    · refine .inr ⟨deleted, ?_, ?_, rfl⟩
      · rw [inTransit, inTransit, Held.held_set_release hrunning hids, hobjects,
          pendingAdded_deleteObject, ← add_assoc]
      · intro objectId
        rw [hobjects]
        exact mem_deleteObject system.objects deleted objectId

/-- The id of an `addObject` step. -/
def addedBy : Label → Option String
  | .addObject objectId _ _ => some objectId
  | _ => none

theorem step_stepped (hsound : system.PackagersSound) {label : Label}
    (hstep : step setup system label = some next) : Stepped (addedBy label) system next := by
  have hids : ∀ {thread : StoreThread}, system.storeThread = thread →
      system.storeThread.objectIds = thread.objectIds := congrArg StoreThread.objectIds
  cases step_taken hstep with
  | setOwnPackager =>
      exact .same (hsound.setPackager setup) (inTransit_setPackager setup system)
        (fun _ => Iff.rfl) rfl rfl
  | subscribeToPackager _ _ hrunning => exact .subscribeToPackager hsound hrunning _ _
  | addObject objectId data metadata => exact .addObject hsound objectId data metadata
  | popped hthread hevents => exact .popped hsound hthread hevents
  | dispatched hthread => exact .onward hsound hthread (.handling _) rfl system.manifestHandler
  | unheard hthread => exact .drop hsound (hids hthread)
  | deletion hthread =>
      refine .onward hsound hthread _ ?_ system.manifestHandler
      split
      · rfl
      · rfl
  | passed hthread => exact .onward hsound hthread .waiting rfl system.manifestHandler
  | drop hthread => exact .drop hsound (hids hthread)
  | handlePackager hthread =>
      exact .onward hsound hthread (.holding _ _) rfl system.manifestHandler
  | checkFailed hthread _ habsent => exact .dropFailed hsound (hids hthread) habsent
  | manifest hthread => exact .manifest hsound (hids hthread)
  | noManifest hthread => exact .onward hsound hthread (.packaging _) rfl system.manifestHandler
  | updateFailed hthread habsent => exact .dropFailed hsound (hids hthread) habsent
  | updated manifestHandler hthread =>
      exact .onward hsound hthread (.packaging _) rfl manifestHandler
  | rejected hthread => exact .rejected hsound (hids hthread)
  | unset hthread => exact .unset hsound (hids hthread)
  | checkPackager hthread =>
      refine .onward hsound hthread _ ?_ system.manifestHandler
      split
      · rfl
      · rfl
  | setObjectListPackager hthread =>
      exact .setObjectListPackager hsound hthread (objectIds_leaving _ _ _)
  | getObjectListPackager hthread =>
      exact .onward hsound hthread (.holding _ _) rfl system.manifestHandler
  | addItem hthread hrunning => exact .add hsound (hids hthread) hrunning (objectIds_leaving _ _ _)
  | resume hthread =>
      exact .onward hsound hthread _ (objectIds_onward _) system.manifestHandler
  | packager hrunning hturn => exact .packager hsound hrunning hturn
  | _ => exact .same hsound rfl (fun _ => Iff.rfl) rfl rfl

/-! ## Runs with fresh ids -/

/-- What holds when the ids added so far are all different: no id is in transit
twice, what is in transit was added and is in the store, and no lookup threw. -/
structure Fresh (system : System) : Prop where
  nodup : system.inTransit.Nodup
  added : ∀ objectId ∈ system.inTransit, objectId ∈ system.books.added
  stored : ∀ objectId ∈ system.inTransit, objectId ∈ system.objects.store
  failed : system.books.failed = []

theorem Stepped.failed_eq_nil {added : Option String} (hstepped : Stepped added system next)
    (hfresh : system.Fresh) : next.books.failed = [] := by
  apply List.eq_nil_iff_forall_not_mem.mpr
  intro objectId hmem
  cases hstepped.failed objectId hmem with
  | inl hold =>
      rw [hfresh.failed] at hold
      cases hold
  | inr habsent => exact habsent.2 (hfresh.stored objectId habsent.1)

theorem Fresh.of_moved (hfresh : system.Fresh) (hmoved : Moved system next)
    (hfailed : next.books.failed = []) : next.Fresh := by
  obtain ⟨⟨released, hids⟩, hstored, hadded⟩ := hmoved
  have hle : next.inTransit ≤ system.inTransit := by
    rw [hids]
    exact Multiset.le_add_right _ _
  refine ⟨Multiset.nodup_of_le hle hfresh.nodup, ?_, ?_, hfailed⟩
  · intro objectId hmem
    rw [hadded]
    exact hfresh.added objectId (Multiset.mem_of_le hle hmem)
  · intro objectId hmem
    rw [hstored]
    exact hfresh.stored objectId (Multiset.mem_of_le hle hmem)

/-- A fresh id is not in transit yet. -/
theorem Fresh.of_added (hfresh : system.Fresh) {added : String}
    (hadded : Added system next added) (hnodup : next.books.added.Nodup)
    (hfailed : next.books.failed = []) : next.Fresh := by
  obtain ⟨hids, hstored, hbooks⟩ := hadded
  have hnew : added ∉ system.inTransit := by
    intro hmem
    rw [hbooks, List.nodup_append] at hnodup
    exact hnodup.2.2 added (hfresh.added added hmem) added (List.mem_singleton_self added) rfl
  have hmem_iff : ∀ objectId, objectId ∈ next.inTransit ↔
      objectId = added ∨ objectId ∈ system.inTransit := by
    intro objectId
    rw [hids, Multiset.mem_add, Multiset.mem_singleton, or_comm]
  refine ⟨?_, ?_, ?_, hfailed⟩
  · rw [hids, add_comm, Multiset.singleton_add, Multiset.nodup_cons]
    exact ⟨hnew, hfresh.nodup⟩
  · intro objectId hmem
    rw [hbooks, List.mem_append, List.mem_singleton]
    cases (hmem_iff objectId).mp hmem with
    | inl hsame => exact .inr hsame
    | inr hold => exact .inl (hfresh.added objectId hold)
  · intro objectId hmem
    rw [hstored]
    exact ((hmem_iff objectId).mp hmem).imp id (hfresh.stored objectId)

/-- A deleted id was in transit, once, and is not any more. -/
theorem Fresh.of_deleted (hfresh : system.Fresh) {deleted : String}
    (hdeleted : Deleted system next deleted) (hfailed : next.books.failed = []) :
    next.Fresh := by
  obtain ⟨hids, hstored, hadded⟩ := hdeleted
  have hle : next.inTransit ≤ system.inTransit := by
    rw [hids]
    exact Multiset.le_add_right _ _
  have hgone : deleted ∉ next.inTransit := by
    have hboth := hfresh.nodup
    rw [hids, add_comm, Multiset.singleton_add, Multiset.nodup_cons] at hboth
    exact hboth.1
  refine ⟨Multiset.nodup_of_le hle hfresh.nodup, ?_, ?_, hfailed⟩
  · intro objectId hmem
    rw [hadded]
    exact hfresh.added objectId (Multiset.mem_of_le hle hmem)
  · intro objectId hmem
    rw [hstored]
    exact ⟨fun hsame => hgone (hsame ▸ hmem),
      hfresh.stored objectId (Multiset.mem_of_le hle hmem)⟩

theorem Fresh.step (hfresh : system.Fresh) {added : Option String}
    (hstepped : Stepped added system next) (hnodup : next.books.added.Nodup) : next.Fresh := by
  have hfailed := hstepped.failed_eq_nil hfresh
  have hids := hstepped.ids
  cases added with
  | some added => exact hfresh.of_added hids hnodup hfailed
  | none =>
      obtain hmoved | ⟨deleted, hdeleted⟩ := hids
      · exact hfresh.of_moved hmoved hfailed
      · exact hfresh.of_deleted hdeleted hfailed

/-- The books have the ids of the `addObject` steps. -/
theorem Stepped.added_eq {added : Option String} (hstepped : Stepped added system next) :
    next.books.added = system.books.added ++ added.toList := by
  have hids := hstepped.ids
  cases added with
  | some added => exact hids.added
  | none =>
      rw [Option.toList_none, List.append_nil]
      obtain hmoved | ⟨deleted, hdeleted⟩ := hids
      · exact hmoved.added
      · exact hdeleted.added

theorem packagersSound_start (setup : Setup) : (start setup).PackagersSound := by
  intro running hmem
  cases hmem

theorem fresh_start (setup : Setup) : (start setup).Fresh where
  nodup := Multiset.nodup_zero
  added := by intro objectId hmem; cases hmem
  stored := by intro objectId hmem; cases hmem
  failed := rfl

/-- The ids of the `addObject` steps of a run. -/
def addedIds (labels : List Label) : List String := labels.filterMap addedBy

/-- The invariant of runs whose `addObject` steps have fresh ids. -/
theorem fresh_of_run {labels : List Label} {final : System}
    (hfresh : (addedIds labels).Nodup)
    (hrun : run (step setup) (start setup) labels = some final) :
    final.PackagersSound ∧ final.Fresh := by
  have hstep : ∀ past system label next,
      system.books.added = addedIds past ∧ system.PackagersSound ∧ system.Fresh →
      (addedIds (past ++ [label])).Nodup → step setup system label = some next →
        next.books.added = addedIds (past ++ [label]) ∧ next.PackagersSound ∧ next.Fresh := by
    intro past system label next hinv hnodup hstep
    have hstepped := step_stepped hinv.2.1 hstep
    have hadded : next.books.added = addedIds (past ++ [label]) := by
      rw [hstepped.added_eq, hinv.1, addedIds, addedIds, List.filterMap_append]
      cases label with
      | _ => rfl
    rw [← hadded] at hnodup
    exact ⟨hadded, hstepped.sound, hinv.2.2.step hstepped hnodup⟩
  have hallowed : ∀ past, past <+: labels → (addedIds past).Nodup := by
    intro past hearlier
    exact hfresh.sublist (hearlier.sublist.filterMap _)
  have hfinal : final.books.added = addedIds labels ∧ final.PackagersSound ∧ final.Fresh :=
    run_history_invariant hstep ⟨rfl, packagersSound_start setup, fresh_start setup⟩ hallowed hrun
  exact hfinal.2

/-! ## Every stage -/

/-- Every id at every stage is a key of the store, and no lookup has thrown. -/
structure NoDangling (system : System) : Prop where
  pending : ∀ objectId, .objectAdded objectId ∈ system.objects.events →
    objectId ∈ system.objects.store
  handled : ∀ objectId ∈ system.storeThread.objectIds, objectId ∈ system.objects.store
  waiting : ∀ running ∈ system.packagers, ∀ item ∈ running.packager.packageItems,
    item.objectId ∈ system.objects.store
  transmitted : ∀ running ∈ system.packagers, running.outstanding ≠ [] →
    running.packager.queuedObjectId ∈ system.objects.store
  completed : ∀ running ∈ system.packagers, ∀ objectId ∈ running.packager.completed,
    objectId ∈ system.objects.store
  completing : ∀ running ∈ system.packagers, ∀ objectId ∈ running.eventThread.objectIds,
    objectId ∈ system.objects.store
  lookups : system.books.failed = []

/-- The ids of a packager are in transit. -/
theorem mem_inTransit_of_packager {running : RunningPackager} {objectId : String}
    (hrunning : running ∈ system.packagers) (hid : objectId ∈ running.inTransit) :
    objectId ∈ system.inTransit :=
  Multiset.mem_add.mpr (.inr ((Held.mem_held _).mpr ⟨running, hrunning, hid⟩))

/-- The transmitted object is in the list until it is popped, and then in transit
by itself. -/
theorem queuedObjectId_mem_inTransit {running : RunningPackager} (hsound : running.Sound)
    (houtstanding : running.outstanding ≠ []) :
    running.packager.queuedObjectId ∈ running.inTransit := by
  cases hworker : running.packager.worker with
  | sent item =>
      obtain ⟨hfront, hqueued, _⟩ := hsound.sent item hworker
      have hitem : item ∈ running.packager.packageItems := List.mem_of_head? hfront
      have hid := List.mem_map_of_mem (f := PackageItem.objectId) hitem
      rw [← hqueued] at hid
      simp [RunningPackager.inTransit, hid]
  | _ =>
      obtain ⟨toi, htoi⟩ := List.exists_mem_of_ne_nil _ houtstanding
      have hid : running.packager.queuedObjectId ∈ running.transmitting := by
        rw [RunningPackager.transmitting, hworker]
        exact List.mem_map.mpr ⟨toi, htoi, rfl⟩
      simp [RunningPackager.inTransit, hid]

theorem Fresh.noDangling (hfresh : system.Fresh) (hsound : system.PackagersSound) :
    system.NoDangling where
  pending := by
    intro objectId hmem
    apply hfresh.stored
    have hid : objectId ∈ pendingAdded system.objects :=
      List.mem_filterMap.mpr ⟨.objectAdded objectId, hmem, rfl⟩
    simp [inTransit, hid]
  handled := by
    intro objectId hmem
    apply hfresh.stored
    simp [inTransit, hmem]
  waiting := by
    intro running hrunning item hitem
    apply hfresh.stored _ (mem_inTransit_of_packager hrunning _)
    have hid := List.mem_map_of_mem (f := PackageItem.objectId) hitem
    simp [RunningPackager.inTransit, hid]
  transmitted := by
    intro running hrunning houtstanding
    exact hfresh.stored _ (mem_inTransit_of_packager hrunning
      (queuedObjectId_mem_inTransit (hsound running hrunning) houtstanding))
  completed := by
    intro running hrunning objectId hmem
    apply hfresh.stored _ (mem_inTransit_of_packager hrunning _)
    simp [RunningPackager.inTransit, hmem]
  completing := by
    intro running hrunning objectId hmem
    apply hfresh.stored _ (mem_inTransit_of_packager hrunning _)
    simp [RunningPackager.inTransit, hmem]
  lookups := hfresh.failed

/-- In every run of a controller whose objects have fresh ids, no id that is still
in use is missing from the store. -/
theorem run_noDangling {labels : List Label} {final : System}
    (hfresh : (addedIds labels).Nodup)
    (hrun : run (step setup) (start setup) labels = some final) : final.NoDangling := by
  obtain ⟨hsound, hinv⟩ := fresh_of_run hfresh hrun
  exact hinv.noDangling hsound

/-- A streaming controller, from its constructor to a manifest update that fails: the
segment is sent and deleted, and its packager is destroyed. -/
def manifestRun : List Label :=
  let metadata (objectId url : String) : Metadata :=
    .new 100 objectId "application/dash+xml" url url "acq1" 90 none none none
  [.construct, .construct, .construct, .construct, .construct, .construct,
    .addObject "1" [60] (metadata "1" "http://example.com/a.mpd"),
    .addObject "2" [7] (metadata "2" "http://example.com/s1.mp4"),
    .popEvent, .dispatch, .handle, .updateManifest .accepted, .checkPackager,
    .getObjectListPackager, .addItem, .popEvent, .dispatch, .handle,
    .packager 0 (.beginRound false), .checkPackager, .getObjectListPackager, .addItem,
    .packager 0 (.send 0 (.accepted 1)), .packager 0 .popFront, .packager 0 (.runOne [1]),
    .packager 0 .popSendCompleted, .packager 0 .dispatchSendCompleted,
    .packager 0 (.beginRound false),
    .packager 0 (.send 0 (.accepted 2)), .packager 0 .lookAtSent, .packager 0 .popFront,
    .packager 0 (.runOne [2]), .packager 0 .popSendCompleted,
    .packager 0 .dispatchSendCompleted, .packager 0 .lookAtSent,
    .addObject "3" [61] (metadata "3" "http://example.com/a.mpd"),
    .packager 0 .deleteSent, .popEvent, .dispatch, .handle, .updateManifest .refused,
    .packager 0 .joinWorker, .packager 0 .joinEvents, .resume, .popEvent, .dispatch]

/-- The run goes through, and leaves both manifests in the store. -/
theorem manifestRun_noDangling :
    ∃ final, run (step ⟨.objectStreaming, "http://example.com/a.mpd", some "239.0.0.1"⟩)
        (start ⟨.objectStreaming, "http://example.com/a.mpd", some "239.0.0.1"⟩)
        manifestRun = some final ∧
      final.objects.store.keys = ["1", "3"] ∧ final.current = none ∧ final.NoDangling := by
  have hends : (run (step ⟨.objectStreaming, "http://example.com/a.mpd", some "239.0.0.1"⟩)
      (start ⟨.objectStreaming, "http://example.com/a.mpd", some "239.0.0.1"⟩)
      manifestRun).any (fun final =>
        final.objects.store.keys = ["1", "3"] ∧ final.current = none) = true := by
    decide +kernel
  obtain ⟨final, hrun, hfinal⟩ := (Option.any_eq_true _ _).mp hends
  obtain ⟨hstore, hcurrent⟩ := of_decide_eq_true hfinal
  exact ⟨final, hrun, hstore, hcurrent, run_noDangling (by decide) hrun⟩

end System

end Mbstf.Controller
