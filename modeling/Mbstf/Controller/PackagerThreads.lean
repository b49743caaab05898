import Mbstf.Core.Held
import Mbstf.Objects.Packager

/-!
# The threads of a packager

A packager has a worker and, as a subscription service, a thread that hands its
`ObjectSendCompleted` events to the controller, which then looks the object up and
deletes it.  Whoever drops the packager joins the worker first, deletes the
transmitter, and joins the thread of the events last.

The transmitter completes what it has accepted, and each transmission once: its
outstanding transmission object identifiers are part of the state.
-/

namespace Mbstf.Controller

open Std Mbstf.Objects

/-- Where the thread of the events is, when an `ObjectSendCompleted` for the object
was taken from the queue. -/
inductive EventThread where
  | waiting
  /-- Behind `pop_front`, with the mutex released. -/
  | popped (objectId : String)
  /-- At the lookup in `ObjectController::processEvent`. -/
  | handling (objectId : String)
  /-- At the `deleteObject` that follows. -/
  | deleting (objectId : String)
  deriving DecidableEq

def EventThread.objectIds : EventThread → List String
  | .waiting => []
  | .popped objectId => [objectId]
  | .handling objectId => [objectId]
  | .deleting objectId => [objectId]

/-- The thread is in the controller's `processEvent`. -/
def EventThread.InHandler : EventThread → Prop
  | .handling _ => True
  | .deleting _ => True
  | _ => False

instance : DecidablePred EventThread.InHandler
  | .waiting => isFalse id
  | .popped _ => isFalse id
  | .handling _ => isTrue trivial
  | .deleting _ => isTrue trivial

/-- How far the destructor has come. -/
inductive Life where
  | working
  | workerJoined
  | destroyed
  deriving DecidableEq

/-- A packager with its transmitter and its threads; `subscribed` says whether the
controller is subscribed to it. -/
structure RunningPackager where
  packager : Packager
  outstanding : List ℕ
  subscribed : Bool
  eventThread : EventThread
  life : Life

/-- One step of a thread of the packager, or of its destructor. -/
inductive PackagerLabel where
  | beginRound (transmitterThrows : Bool)
  | send (secondsSinceEpoch : ℕ) (outcome : SendOutcome)
  | popFront
  | runOne (tois : List ℕ)
  | popSendCompleted
  | dispatchSendCompleted
  | lookAtSent
  | deleteSent
  | joinWorker
  | joinEvents

/-- What a step leaves; `failed` has the object id of a lookup that threw. -/
structure Turn where
  running : RunningPackager
  objects : ObjectStore
  failed : List String

namespace RunningPackager

/-- A packager with nothing to package. -/
def new (destIpAddr : Option String) : RunningPackager where
  packager := .new destIpAddr []
  outstanding := []
  subscribed := false
  eventThread := .waiting
  life := .working

/-- `add(PackageItem(objectId))`. -/
def add (running : RunningPackager) (objectId : String) : RunningPackager :=
  { running with packager := running.packager.add ⟨objectId, none⟩ }

/-- The lookups of the picked object and the `send`.  The object is the one that the store has
at the `send`: the references show no other, unless one is added or deleted under the id after
the lookups. -/
def send (running : RunningPackager) (objects : ObjectStore) (item : PackageItem)
    (secondsSinceEpoch : ℕ) (outcome : SendOutcome) : Option Turn :=
  let sent := { running with
    packager :=
      running.packager.send item (objects.at? item.objectId) secondsSinceEpoch outcome }
  match objects.at? item.objectId, outcome with
  | .error _, _ => some ⟨sent, objects, [item.objectId]⟩
  | .ok _, .throws => some ⟨sent, objects, []⟩
  | .ok _, .accepted toi =>
      if toi ≠ 0 ∧ toi ∉ running.outstanding then
        some ⟨{ sent with outstanding := running.outstanding ++ [toi] }, objects, []⟩
      else none

/-- The event in front of the queue is taken. -/
def popSendCompleted (running : RunningPackager) : Option RunningPackager :=
  match running.eventThread, running.packager.completed with
  | .waiting, objectId :: rest =>
      some { running with
        packager := { running.packager with completed := rest }
        eventThread := .popped objectId }
  | _, _ => none

/-- The event in hand goes to the controller if that is subscribed. -/
def dispatchSendCompleted (running : RunningPackager) (objectId : String) : RunningPackager :=
  { running with eventThread := if running.subscribed then .handling objectId else .waiting }

/-- The lookup in `ObjectController::processEvent`. -/
def lookAtSent (running : RunningPackager) (objects : ObjectStore) (objectId : String) : Turn :=
  match objects.getMetadata objectId with
  | .error _ => ⟨{ running with eventThread := .waiting }, objects, [objectId]⟩
  | .ok metadata =>
      if metadata.keepAfterSend then ⟨{ running with eventThread := .waiting }, objects, []⟩
      else ⟨{ running with eventThread := .deleting objectId }, objects, []⟩

/-- The worker is joined and the transmitter deleted. -/
def joinWorker (running : RunningPackager) : RunningPackager :=
  { running with
    packager := { running.packager with packageItems := [] }
    outstanding := []
    life := .workerJoined }

/-- The thread of the events is joined and the controller told. -/
def joinEvents (running : RunningPackager) : RunningPackager :=
  { running with
    packager := { running.packager with completed := [] }
    subscribed := false
    life := .destroyed }

/-- One step, with the object store as it is; `abandoned` says whether somebody is
destroying the packager. -/
def turn (running : RunningPackager) (abandoned : Bool) (objects : ObjectStore) :
    PackagerLabel → Option Turn
  | .beginRound transmitterThrows =>
      if running.life = .working ∧ running.packager.worker = .roundStart then
        some ⟨{ running with packager := running.packager.beginRound transmitterThrows },
          objects, []⟩
      else none
  | .send secondsSinceEpoch outcome =>
      match running.life, running.packager.worker with
      | .working, .picked item => running.send objects item secondsSinceEpoch outcome
      | _, _ => none
  | .popFront =>
      match running.life, running.packager.worker with
      | .working, .sent _ =>
          some ⟨{ running with packager := running.packager.popFront }, objects, []⟩
      | _, _ => none
  | .runOne tois =>
      if running.life = .working ∧ running.packager.worker = .completing ∧ tois.Nodup ∧
          ∀ toi ∈ tois, toi ∈ running.outstanding then
        some ⟨{ running with
          packager := running.packager.runOne tois
          outstanding := running.outstanding.filter (· ∉ tois) }, objects, []⟩
      else none
  | .popSendCompleted =>
      if running.life = .destroyed then none
      else running.popSendCompleted.map fun next => ⟨next, objects, []⟩
  | .dispatchSendCompleted =>
      match running.eventThread with
      | .popped objectId => some ⟨running.dispatchSendCompleted objectId, objects, []⟩
      | _ => none
  | .lookAtSent =>
      match running.eventThread with
      | .handling objectId => some (running.lookAtSent objects objectId)
      | _ => none
  | .deleteSent =>
      match running.eventThread with
      | .deleting objectId =>
          some ⟨{ running with eventThread := .waiting }, objects.deleteObject objectId, []⟩
      | _ => none
  | .joinWorker =>
      if abandoned ∧ running.life = .working ∧ running.packager.worker = .roundStart then
        some ⟨running.joinWorker, objects, []⟩
      else none
  | .joinEvents =>
      if abandoned ∧ running.life = .workerJoined ∧ running.eventThread = .waiting then
        some ⟨running.joinEvents, objects, []⟩
      else none

/-! ## The object ids in a packager -/

/-- The objects given to the transmitter and taken off the list. -/
def transmitting (running : RunningPackager) : List String :=
  match running.packager.worker with
  | .sent _ => []
  | _ => running.outstanding.map fun _ => running.packager.queuedObjectId

/-- The ids in the list, with the transmitter, and in events, each stage once. -/
def inTransit (running : RunningPackager) : Multiset String :=
  (running.packager.packageItems.map PackageItem.objectId : Multiset String) +
    (running.transmitting : Multiset String) + (running.packager.completed : Multiset String) +
      (running.eventThread.objectIds : Multiset String)

/-- The worker's item is in front of the list, and the transmitter has at most the
object that is queued. -/
structure Sound (running : RunningPackager) : Prop where
  noDeadline : ∀ item ∈ running.packager.packageItems, item.deadline = none
  picked : ∀ item, running.packager.worker = .picked item →
    running.packager.packageItems.head? = some item ∧ running.outstanding = []
  sent : ∀ item, running.packager.worker = .sent item →
    running.packager.packageItems.head? = some item ∧
      running.packager.queuedObjectId = item.objectId ∧
      ∃ toi, running.outstanding = [toi]
  queued : running.outstanding = [] ∨
    (running.outstanding = [running.packager.queuedToi] ∧ running.packager.queued = true)

theorem sound_new (destIpAddr : Option String) : (new destIpAddr).Sound where
  noDeadline := by intro item hitem; cases hitem
  picked := by intro item hitem; cases hitem
  sent := by intro item hitem; cases hitem
  queued := .inl rfl

theorem inTransit_new (destIpAddr : Option String) : (new destIpAddr).inTransit = 0 := by
  rfl

/-! ## Additions -/

theorem Sound.packageItems_add {running : RunningPackager} (hsound : running.Sound)
    (objectId : String) :
    (running.add objectId).packager.packageItems =
      running.packager.packageItems ++ [⟨objectId, none⟩] := by
  apply DeadlineOrder.sort_of_no_deadline
  intro item hitem
  cases List.mem_append.mp hitem with
  | inl hold => exact hsound.noDeadline item hold
  | inr hnew => rw [List.mem_singleton.mp hnew]

theorem Sound.add {running : RunningPackager} (hsound : running.Sound) (objectId : String) :
    (running.add objectId).Sound := by
  have hitems := hsound.packageItems_add objectId
  have hhead : ∀ item, running.packager.packageItems.head? = some item →
      (running.add objectId).packager.packageItems.head? = some item := by
    intro item hitem
    rw [hitems, List.head?_append, hitem]
    rfl
  constructor
  · intro item hitem
    rw [hitems] at hitem
    cases List.mem_append.mp hitem with
    | inl hold => exact hsound.noDeadline item hold
    | inr hnew => rw [List.mem_singleton.mp hnew]
  · intro item hworker
    obtain ⟨hfront, hempty⟩ := hsound.picked item hworker
    exact ⟨hhead item hfront, hempty⟩
  · intro item hworker
    obtain ⟨hfront, hqueued⟩ := hsound.sent item hworker
    exact ⟨hhead item hfront, hqueued⟩
  · exact hsound.queued

theorem Sound.inTransit_add {running : RunningPackager} (hsound : running.Sound)
    (objectId : String) :
    (running.add objectId).inTransit = running.inTransit + {objectId} := by
  have hitems : ((running.add objectId).packager.packageItems.map PackageItem.objectId :
      Multiset String) =
        (running.packager.packageItems.map PackageItem.objectId : Multiset String) +
          {objectId} := by
    rw [hsound.packageItems_add, List.map_append]
    exact Held.coe_concat _ objectId
  have htransmitting : (running.add objectId).transmitting = running.transmitting := by
    unfold transmitting
    rfl
  rw [inTransit, inTransit, hitems, htransmitting]
  change _ + _ + _ + (running.packager.completed : Multiset String) +
    (running.eventThread.objectIds : Multiset String) = _
  abel

/-! ## Steps -/

variable {running : RunningPackager} {objects : ObjectStore}

/-- The steps there are: what each finds, and what it leaves. -/
inductive Taken (running : RunningPackager) (abandoned : Bool) (objects : ObjectStore) :
    PackagerLabel → Turn → Prop where
  | begun (transmitterThrows : Bool) (hlife : running.life = .working)
      (hworker : running.packager.worker = .roundStart) :
      Taken running abandoned objects (.beginRound transmitterThrows)
        ⟨{ running with packager := running.packager.beginRound transmitterThrows }, objects, []⟩
  | unfound {item : PackageItem} {exception : OutOfRange} (secondsSinceEpoch : ℕ)
      (outcome : SendOutcome) (hlife : running.life = .working)
      (hworker : running.packager.worker = .picked item)
      (hobject : objects.at? item.objectId = .error exception) :
      Taken running abandoned objects (.send secondsSinceEpoch outcome)
        ⟨{ running with packager := { running.packager with
            queuedObjectId := item.objectId
            worker := .roundStart } }, objects, [item.objectId]⟩
  | thrown {item : PackageItem} {object : Object} (secondsSinceEpoch : ℕ)
      (hlife : running.life = .working) (hworker : running.packager.worker = .picked item)
      (hobject : objects.at? item.objectId = .ok object) :
      Taken running abandoned objects (.send secondsSinceEpoch .throws)
        ⟨{ running with packager := { running.packager with
            queuedObjectId := item.objectId
            queued := true
            worker := .roundStart } }, objects, []⟩
  | accepted {item : PackageItem} {object : Object} (secondsSinceEpoch : ℕ) {toi : ℕ}
      (hlife : running.life = .working) (hworker : running.packager.worker = .picked item)
      (hobject : objects.at? item.objectId = .ok object)
      (hnew : toi ≠ 0 ∧ toi ∉ running.outstanding) :
      Taken running abandoned objects (.send secondsSinceEpoch (.accepted toi))
        ⟨{ running with
            packager := { running.packager with
              queuedObjectId := item.objectId
              queued := true
              queuedToi := toi
              requests := running.packager.requests ++ [sendRequest object secondsSinceEpoch]
              worker := .sent item }
            outstanding := running.outstanding ++ [toi] }, objects, []⟩
  | popped {item : PackageItem} (hlife : running.life = .working)
      (hworker : running.packager.worker = .sent item) :
      Taken running abandoned objects .popFront
        ⟨{ running with packager := running.packager.popFront }, objects, []⟩
  | ran {tois : List ℕ} (hlife : running.life = .working)
      (hworker : running.packager.worker = .completing) (hnodup : tois.Nodup)
      (htois : ∀ toi ∈ tois, toi ∈ running.outstanding) :
      Taken running abandoned objects (.runOne tois)
        ⟨{ running with
            packager := running.packager.runOne tois
            outstanding := running.outstanding.filter (· ∉ tois) }, objects, []⟩
  | eventPopped {objectId : String} {rest : List String} (hlife : running.life ≠ .destroyed)
      (hwaiting : running.eventThread = .waiting)
      (hcompleted : running.packager.completed = objectId :: rest) :
      Taken running abandoned objects .popSendCompleted
        ⟨{ running with
            packager := { running.packager with completed := rest }
            eventThread := .popped objectId },
          objects, []⟩
  | dispatched {objectId : String} (hpopped : running.eventThread = .popped objectId) :
      Taken running abandoned objects .dispatchSendCompleted
        ⟨running.dispatchSendCompleted objectId, objects, []⟩
  | looked {objectId : String} (hhandling : running.eventThread = .handling objectId) :
      Taken running abandoned objects .lookAtSent (running.lookAtSent objects objectId)
  | deleted {objectId : String} (hdeleting : running.eventThread = .deleting objectId) :
      Taken running abandoned objects .deleteSent
        ⟨{ running with eventThread := .waiting }, objects.deleteObject objectId, []⟩
  | workerJoined (habandoned : abandoned = true) (hlife : running.life = .working)
      (hworker : running.packager.worker = .roundStart) :
      Taken running abandoned objects .joinWorker ⟨running.joinWorker, objects, []⟩
  | eventsJoined (habandoned : abandoned = true) (hlife : running.life = .workerJoined)
      (hwaiting : running.eventThread = .waiting) :
      Taken running abandoned objects .joinEvents ⟨running.joinEvents, objects, []⟩

theorem send_taken {item : PackageItem} (hlife : running.life = .working)
    (hworker : running.packager.worker = .picked item) {abandoned : Bool}
    {secondsSinceEpoch : ℕ} {outcome : SendOutcome} {after : Turn}
    (hsend : running.send objects item secondsSinceEpoch outcome = some after) :
    Taken running abandoned objects (.send secondsSinceEpoch outcome) after := by
  unfold RunningPackager.send at hsend
  cases hobject : objects.at? item.objectId with
  | error exception =>
      rw [hobject] at hsend
      obtain rfl := Option.some.inj hsend
      exact .unfound secondsSinceEpoch outcome hlife hworker hobject
  | ok object =>
      rw [hobject] at hsend
      cases outcome with
      | throws =>
          obtain rfl := Option.some.inj hsend
          exact .thrown secondsSinceEpoch hlife hworker hobject
      | accepted toi =>
          obtain ⟨hnew, hafter⟩ := Option.ite_none_right_eq_some.mp hsend
          obtain rfl := Option.some.inj hafter
          exact .accepted secondsSinceEpoch hlife hworker hobject hnew

theorem turn_taken {abandoned : Bool} {label : PackagerLabel} {after : Turn}
    (hturn : running.turn abandoned objects label = some after) :
    Taken running abandoned objects label after := by
  cases label with
  | beginRound transmitterThrows =>
      obtain ⟨⟨hlife, hworker⟩, hafter⟩ := Option.ite_none_right_eq_some.mp hturn
      obtain rfl := Option.some.inj hafter
      exact .begun transmitterThrows hlife hworker
  | send secondsSinceEpoch outcome =>
      simp only [RunningPackager.turn] at hturn
      split at hturn
      case h_1 item hlife hworker => exact send_taken hlife hworker hturn
      case h_2 => cases hturn
  | popFront =>
      simp only [RunningPackager.turn] at hturn
      split at hturn
      case h_1 item hlife hworker =>
          obtain rfl := Option.some.inj hturn
          exact .popped hlife hworker
      case h_2 => cases hturn
  | runOne tois =>
      obtain ⟨⟨hlife, hworker, hnodup, htois⟩, hafter⟩ :=
        Option.ite_none_right_eq_some.mp hturn
      obtain rfl := Option.some.inj hafter
      exact .ran hlife hworker hnodup htois
  | popSendCompleted =>
      obtain ⟨hlife, hafter⟩ := Option.ite_none_left_eq_some.mp hturn
      obtain ⟨next, hnext, rfl⟩ := Option.map_eq_some_iff.mp hafter
      unfold RunningPackager.popSendCompleted at hnext
      split at hnext
      case h_1 objectId rest hwaiting hcompleted =>
          obtain rfl := Option.some.inj hnext
          exact .eventPopped hlife hwaiting hcompleted
      case h_2 => cases hnext
  | dispatchSendCompleted =>
      simp only [RunningPackager.turn] at hturn
      split at hturn
      case h_1 objectId hpopped =>
          obtain rfl := Option.some.inj hturn
          exact .dispatched hpopped
      case h_2 => cases hturn
  | lookAtSent =>
      simp only [RunningPackager.turn] at hturn
      split at hturn
      case h_1 objectId hhandling =>
          obtain rfl := Option.some.inj hturn
          exact .looked hhandling
      case h_2 => cases hturn
  | deleteSent =>
      simp only [RunningPackager.turn] at hturn
      split at hturn
      case h_1 objectId hdeleting =>
          obtain rfl := Option.some.inj hturn
          exact .deleted hdeleting
      case h_2 => cases hturn
  | joinWorker =>
      obtain ⟨⟨habandoned, hlife, hworker⟩, hafter⟩ := Option.ite_none_right_eq_some.mp hturn
      obtain rfl := Option.some.inj hafter
      exact .workerJoined habandoned hlife hworker
  | joinEvents =>
      obtain ⟨⟨habandoned, hlife, hwaiting⟩, hafter⟩ := Option.ite_none_right_eq_some.mp hturn
      obtain rfl := Option.some.inj hafter
      exact .eventsJoined habandoned hlife hwaiting

/-- What a step does: ids leave the packager, a deleted one among them, and none
comes.  A lookup throws for an id that was in the packager only. -/
structure Turned (running : RunningPackager) (objects : ObjectStore) (after : Turn) : Prop where
  sound : after.running.Sound
  failed : ∀ objectId ∈ after.failed, objectId ∈ running.inTransit ∧ objectId ∉ objects.store
  ids : (after.objects = objects ∧
      ∃ released, running.inTransit = after.running.inTransit + released) ∨
    ∃ objectId, after.objects = objects.deleteObject objectId ∧
      running.inTransit = after.running.inTransit + {objectId}

/-- A step that keeps all ids. -/
theorem Turned.of_eq {next : RunningPackager} (hsound : next.Sound)
    (hids : next.inTransit = running.inTransit) : Turned running objects ⟨next, objects, []⟩ where
  sound := hsound
  failed := by intro objectId hmem; cases hmem
  ids := .inl ⟨rfl, 0, by rw [hids, add_zero]⟩

theorem beginRound_eq (packager : Packager) (transmitterThrows : Bool) :
    ∃ hasTransmitter worker,
      packager.beginRound transmitterThrows =
        { packager with hasTransmitter := hasTransmitter, worker := worker } ∧
      (worker = packager.worker ∨ worker = .completing ∨
        ∃ item, packager.packageItems.head? = some item ∧ packager.queued = false ∧
          worker = .picked item) := by
  unfold Packager.beginRound
  split
  · exact ⟨packager.hasTransmitter, packager.worker, rfl, .inl rfl⟩
  split
  · exact ⟨packager.hasTransmitter, packager.worker, rfl, .inl rfl⟩
  cases hitems : packager.packageItems with
  | nil => exact ⟨true, .completing, by simp, .inr (.inl rfl)⟩
  | cons item rest =>
      cases hqueued : packager.queued with
      | true => exact ⟨true, .completing, by simp, .inr (.inl rfl)⟩
      | false =>
          exact ⟨true, .picked item, by simp, .inr (.inr ⟨item, rfl, rfl, rfl⟩)⟩

theorem Sound.beginRound (hsound : running.Sound)
    (hworker : running.packager.worker = .roundStart) (transmitterThrows : Bool) :
    Turned running objects ⟨{ running with
      packager := running.packager.beginRound transmitterThrows }, objects, []⟩ := by
  obtain ⟨hasTransmitter, worker, hbegin, hcases⟩ :=
    beginRound_eq running.packager transmitterThrows
  rw [hbegin]
  have hnotSent : ∀ item, worker ≠ .sent item := by
    intro item hitem
    subst hitem
    obtain hsame | hcompleting | ⟨picked, _, _, hpicked⟩ := hcases
    · rw [hworker] at hsame
      cases hsame
    · cases hcompleting
    · cases hpicked
  apply Turned.of_eq
  · refine ⟨hsound.noDeadline, ?_, ?_, hsound.queued⟩
    · intro item hitem
      obtain hsame | hcompleting | ⟨picked, hfront, hfree, hpicked⟩ := hcases
      · exact hsound.picked item (hsame ▸ hitem)
      · rw [hcompleting] at hitem
        cases hitem
      · obtain rfl : picked = item := by
          rw [hpicked] at hitem
          exact WorkerPoint.picked.inj hitem
        refine ⟨hfront, ?_⟩
        cases hsound.queued with
        | inl hempty => exact hempty
        | inr hone =>
            rw [hfree] at hone
            cases hone.2
    · intro item hitem
      exact absurd hitem (hnotSent item)
  · have hids : transmitting { running with packager := { running.packager with
        hasTransmitter := hasTransmitter, worker := worker } } = running.transmitting := by
      unfold transmitting
      rw [hworker]
      cases worker with
      | sent item => exact absurd rfl (hnotSent item)
      | _ => rfl
    rw [inTransit, hids]
    rfl

theorem Sound.popFront (hsound : running.Sound) {item : PackageItem}
    (hworker : running.packager.worker = .sent item) :
    Turned running objects ⟨{ running with packager := running.packager.popFront },
      objects, []⟩ := by
  obtain ⟨hfront, hqueuedId, toi, hone⟩ := hsound.sent item hworker
  obtain ⟨rest, hitems⟩ : ∃ rest, running.packager.packageItems = item :: rest :=
    List.head?_eq_some_iff.mp hfront
  apply Turned.of_eq
  · refine ⟨?_, ?_, ?_, hsound.queued⟩
    · intro other hother
      exact hsound.noDeadline other (List.mem_of_mem_tail hother)
    · intro other hother
      cases hother
    · intro other hother
      cases hother
  · have hbefore : running.transmitting = [] := by rw [transmitting, hworker]
    have hafter : transmitting { running with packager := running.packager.popFront } =
        [item.objectId] := by
      rw [← hqueuedId]
      change running.outstanding.map (fun _ => running.packager.queuedObjectId) = _
      rw [hone]
      rfl
    rw [inTransit, inTransit, hbefore, hafter]
    change ((running.packager.packageItems.tail.map PackageItem.objectId : List String) :
      Multiset String) + _ + (running.packager.completed : Multiset String) + _ = _
    rw [hitems, List.tail_cons, List.map_cons,
      Held.coe_cons item.objectId (rest.map PackageItem.objectId), Multiset.coe_nil,
      Multiset.coe_singleton]
    change _ + _ + _ + (running.eventThread.objectIds : Multiset String) = _
    abel

theorem at?_error {objectId : String} {exception : OutOfRange}
    (herror : objects.at? objectId = .error exception) : objectId ∉ objects.store := by
  unfold ObjectStore.at? at herror
  split at herror
  case h_1 hnone => exact fun hmem => by simp [ExtTreeMap.mem_iff_isSome_getElem?, hnone] at hmem
  case h_2 => cases herror

/-- The picked item's id is in the list. -/
theorem Sound.picked_mem (hsound : running.Sound) {item : PackageItem}
    (hworker : running.packager.worker = .picked item) : item.objectId ∈ running.inTransit := by
  have hitem : item ∈ running.packager.packageItems :=
    List.mem_of_head? (hsound.picked item hworker).1
  have hid : item.objectId ∈ running.packager.packageItems.map PackageItem.objectId :=
    List.mem_map_of_mem hitem
  simp [inTransit, hid]

/-- A round that ends with an exception leaves the list as it is. -/
theorem Sound.sendThrows (hsound : running.Sound) (hempty : running.outstanding = [])
    (objectId : String) (queued : Bool) :
    (({ running with packager := { running.packager with
        queuedObjectId := objectId, queued := queued, worker := .roundStart } } :
          RunningPackager)).Sound where
  noDeadline := hsound.noDeadline
  picked := by intro item hitem; cases hitem
  sent := by intro item hitem; cases hitem
  queued := .inl hempty

theorem inTransit_sendThrows (hempty : running.outstanding = [])
    (hnone : running.transmitting = []) (objectId : String) (queued : Bool) :
    inTransit { running with packager := { running.packager with
      queuedObjectId := objectId, queued := queued, worker := .roundStart } } =
        running.inTransit := by
  have hafter : transmitting { running with packager := { running.packager with
      queuedObjectId := objectId, queued := queued, worker := .roundStart } } = [] := by
    change running.outstanding.map _ = []
    rw [hempty, List.map_nil]
  rw [inTransit, inTransit, hafter, hnone]

theorem Sound.transmitting_of_picked (hsound : running.Sound) {item : PackageItem}
    (hworker : running.packager.worker = .picked item) : running.transmitting = [] := by
  rw [transmitting, hworker]
  change running.outstanding.map _ = []
  rw [(hsound.picked item hworker).2, List.map_nil]

theorem Sound.accepted (hsound : running.Sound) {item : PackageItem}
    (hworker : running.packager.worker = .picked item) (toi : ℕ) (requests : List SendRequest) :
    Turned running objects ⟨{ running with
      packager := { running.packager with
        queuedObjectId := item.objectId
        queued := true
        queuedToi := toi
        requests := requests
        worker := .sent item }
      outstanding := running.outstanding ++ [toi] }, objects, []⟩ := by
  obtain ⟨hfront, hempty⟩ := hsound.picked item hworker
  have hone : running.outstanding ++ [toi] = [toi] := by rw [hempty, List.nil_append]
  apply Turned.of_eq
  · refine ⟨hsound.noDeadline, ?_, ?_, .inr ⟨hone, rfl⟩⟩
    · intro other hother
      cases hother
    · intro other hother
      obtain rfl : item = other := WorkerPoint.sent.inj hother
      exact ⟨hfront, rfl, toi, hone⟩
  · rw [inTransit, inTransit, hsound.transmitting_of_picked hworker]
    rfl

/-- One `run_one` completes nothing, or the object that is queued. -/
theorem Sound.runOne_cases (hsound : running.Sound) {tois : List ℕ} (hnodup : tois.Nodup)
    (hmem : ∀ toi ∈ tois, toi ∈ running.outstanding) :
    tois = [] ∨ (running.outstanding = [running.packager.queuedToi] ∧
      tois = [running.packager.queuedToi]) := by
  cases hsound.queued with
  | inl hempty =>
      left
      rw [hempty] at hmem
      exact List.eq_nil_iff_forall_not_mem.mpr fun toi htoi => List.not_mem_nil (hmem toi htoi)
  | inr hone =>
      rw [hone.1] at hmem
      have hall : ∀ toi ∈ tois, toi = running.packager.queuedToi := fun toi htoi =>
        List.mem_singleton.mp (hmem toi htoi)
      have hreplicate := List.eq_replicate_of_mem hall
      have hlength : tois.length ≤ 1 := by
        rw [hreplicate] at hnodup
        exact List.nodup_replicate.mp hnodup
      cases tois with
      | nil => exact .inl rfl
      | cons toi rest =>
          right
          have hrest : rest = [] := by simpa using hlength
          exact ⟨hone.1, by rw [hrest, hall toi List.mem_cons_self]⟩

theorem Sound.runOne (hsound : running.Sound) (hworker : running.packager.worker = .completing)
    {tois : List ℕ} (hnodup : tois.Nodup) (hmem : ∀ toi ∈ tois, toi ∈ running.outstanding) :
    Turned running objects ⟨{ running with
      packager := running.packager.runOne tois
      outstanding := running.outstanding.filter (· ∉ tois) }, objects, []⟩ := by
  have hbefore : running.transmitting =
      running.outstanding.map fun _ => running.packager.queuedObjectId := by
    rw [transmitting, hworker]
  obtain rfl | ⟨hone, rfl⟩ := hsound.runOne_cases hnodup hmem
  · have hkept : running.outstanding.filter (· ∉ ([] : List ℕ)) = running.outstanding := by simp
    rw [hkept]
    apply Turned.of_eq
    · refine ⟨hsound.noDeadline, ?_, ?_, hsound.queued⟩
      · intro item hitem
        cases hitem
      · intro item hitem
        cases hitem
    · rw [inTransit, inTransit, hbefore]
      rfl
  · have hcompleted : running.packager.runOne [running.packager.queuedToi] =
        { running.packager with
          queued := false
          completed := running.packager.completed ++ [running.packager.queuedObjectId]
          worker := .roundStart } := by
      simp [Packager.runOne, Packager.onCompletion]
    have hnone : running.outstanding.filter (· ∉ [running.packager.queuedToi]) = [] := by
      simp [hone]
    rw [hcompleted, hnone]
    apply Turned.of_eq
    · refine ⟨hsound.noDeadline, ?_, ?_, .inl rfl⟩
      · intro item hitem
        cases hitem
      · intro item hitem
        cases hitem
    · rw [inTransit, inTransit, hbefore, hone]
      change _ + ((([] : List String)) : Multiset String) +
        ((running.packager.completed ++ [running.packager.queuedObjectId] : List String) :
          Multiset String) + _ = _
      rw [Held.coe_concat, Multiset.coe_nil, List.map_cons, List.map_nil,
        Multiset.coe_singleton]
      change _ + _ + _ + (running.eventThread.objectIds : Multiset String) = _
      abel

theorem Sound.popSendCompleted (hsound : running.Sound)
    (hwaiting : running.eventThread = .waiting) {objectId : String} {rest : List String}
    (hcompleted : running.packager.completed = objectId :: rest) :
    Turned running objects ⟨{ running with
      packager := { running.packager with completed := rest }
      eventThread := .popped objectId }, objects, []⟩ := by
  refine .of_eq ⟨hsound.noDeadline, hsound.picked, hsound.sent, hsound.queued⟩ ?_
  rw [inTransit, inTransit, hwaiting, hcompleted, Held.coe_cons]
  change (running.packager.packageItems.map PackageItem.objectId : Multiset String) +
    (running.transmitting : Multiset String) + (rest : Multiset String) +
      ([objectId] : List String) = _
  simp only [EventThread.objectIds, Multiset.coe_nil, Multiset.coe_singleton]
  abel

/-- The thread of the events has moved on. -/
theorem Sound.withEventThread (hsound : running.Sound) (eventThread : EventThread) :
    ({ running with eventThread := eventThread } : RunningPackager).Sound :=
  ⟨hsound.noDeadline, hsound.picked, hsound.sent, hsound.queued⟩

/-- All ids but the one that the thread of the events has. -/
theorem inTransit_of_eventThread {objectId : String}
    (hthread : running.eventThread.objectIds = [objectId]) :
    running.inTransit =
      inTransit { running with eventThread := .waiting } + {objectId} := by
  have hnone : EventThread.waiting.objectIds = [] := rfl
  have htransmitting : transmitting { running with eventThread := .waiting } =
      running.transmitting := by
    unfold transmitting
    rfl
  rw [inTransit, inTransit, hthread, htransmitting, hnone, Multiset.coe_nil, add_zero,
    Multiset.coe_singleton]

theorem Sound.dispatchSendCompleted (hsound : running.Sound) {objectId : String}
    (hthread : running.eventThread = .popped objectId) :
    Turned running objects ⟨running.dispatchSendCompleted objectId, objects, []⟩ := by
  have hids := inTransit_of_eventThread
    (show running.eventThread.objectIds = [objectId] by rw [hthread]; rfl)
  unfold RunningPackager.dispatchSendCompleted
  split
  case isTrue =>
      apply Turned.of_eq (hsound.withEventThread (.handling objectId))
      rw [hids]
      exact inTransit_of_eventThread rfl
  case isFalse =>
      refine ⟨hsound.withEventThread .waiting, ?_, .inl ⟨rfl, {objectId}, hids⟩⟩
      intro failed hfailed
      cases hfailed

theorem Sound.lookAtSent (hsound : running.Sound) {objectId : String}
    (hthread : running.eventThread = .handling objectId) :
    Turned running objects (running.lookAtSent objects objectId) := by
  have hids := inTransit_of_eventThread
    (show running.eventThread.objectIds = [objectId] by rw [hthread]; rfl)
  unfold RunningPackager.lookAtSent
  split
  case h_1 exception hlookup =>
      refine ⟨hsound.withEventThread .waiting, ?_, .inl ⟨rfl, {objectId}, hids⟩⟩
      intro failed hfailed
      obtain rfl := List.mem_singleton.mp hfailed
      refine ⟨by rw [hids]; simp, ?_⟩
      unfold ObjectStore.getMetadata at hlookup
      cases hfound : objects.at? failed with
      | error exception => exact at?_error hfound
      | ok object =>
          rw [hfound] at hlookup
          cases hlookup
  case h_2 metadata hlookup =>
      split
      · refine ⟨hsound.withEventThread .waiting, ?_, .inl ⟨rfl, {objectId}, hids⟩⟩
        intro failed hfailed
        cases hfailed
      · apply Turned.of_eq (hsound.withEventThread (.deleting objectId))
        rw [hids]
        exact inTransit_of_eventThread rfl

theorem Sound.deleteSent (hsound : running.Sound) {objectId : String}
    (hthread : running.eventThread = .deleting objectId) :
    Turned running objects
      ⟨{ running with eventThread := .waiting }, objects.deleteObject objectId, []⟩ where
  sound := hsound.withEventThread .waiting
  failed := by intro failed hfailed; cases hfailed
  ids := .inr ⟨objectId, rfl, inTransit_of_eventThread (by rw [hthread]; rfl)⟩

theorem turned_joinWorker (hworker : running.packager.worker = .roundStart) :
    Turned running objects ⟨running.joinWorker, objects, []⟩ := by
  have hsound' : running.joinWorker.Sound := by
    refine ⟨?_, ?_, ?_, .inl rfl⟩
    · intro item hitem
      cases hitem
    · intro item hitem
      rw [RunningPackager.joinWorker, hworker] at hitem
      cases hitem
    · intro item hitem
      rw [RunningPackager.joinWorker, hworker] at hitem
      cases hitem
  refine ⟨hsound', ?_, .inl ⟨rfl, ?_⟩⟩
  · intro failed hfailed
    cases hfailed
  · refine ⟨(running.packager.packageItems.map PackageItem.objectId : Multiset String) +
      (running.transmitting : Multiset String), ?_⟩
    have hnone : running.joinWorker.transmitting = [] := by
      rw [transmitting, RunningPackager.joinWorker, hworker]
      rfl
    rw [inTransit, inTransit, hnone]
    change _ = (([] : List String) : Multiset String) + (([] : List String) : Multiset String) +
      (running.packager.completed : Multiset String) +
        (running.eventThread.objectIds : Multiset String) + _
    rw [Multiset.coe_nil]
    abel

theorem Sound.joinEvents (hsound : running.Sound) :
    Turned running objects ⟨running.joinEvents, objects, []⟩ := by
  refine ⟨⟨hsound.noDeadline, hsound.picked, hsound.sent, hsound.queued⟩, ?_, .inl ⟨rfl, ?_⟩⟩
  · intro failed hfailed
    cases hfailed
  · refine ⟨(running.packager.completed : Multiset String), ?_⟩
    have hsame : running.joinEvents.transmitting = running.transmitting := by
      unfold transmitting
      rfl
    rw [inTransit, inTransit, hsame]
    change _ = (running.packager.packageItems.map PackageItem.objectId : Multiset String) +
      (running.transmitting : Multiset String) + (([] : List String) : Multiset String) +
        (running.eventThread.objectIds : Multiset String) + _
    rw [Multiset.coe_nil]
    abel

/-- What any step does. -/
theorem Sound.turn (hsound : running.Sound) {abandoned : Bool} {label : PackagerLabel}
    {after : Turn} (hturn : running.turn abandoned objects label = some after) :
    Turned running objects after := by
  cases turn_taken hturn with
  | begun transmitterThrows _ hworker => exact hsound.beginRound hworker transmitterThrows
  | @unfound item _ _ _ _ hworker hobject =>
      have hempty := (hsound.picked item hworker).2
      have hids := inTransit_sendThrows hempty (hsound.transmitting_of_picked hworker)
        item.objectId running.packager.queued
      refine ⟨hsound.sendThrows hempty item.objectId running.packager.queued, ?_,
        .inl ⟨rfl, 0, ?_⟩⟩
      · intro objectId hfailed
        obtain rfl := List.mem_singleton.mp hfailed
        exact ⟨hsound.picked_mem hworker, at?_error hobject⟩
      · rw [add_zero]
        exact hids.symm
  | @thrown item _ _ _ hworker =>
      have hempty := (hsound.picked item hworker).2
      exact .of_eq (hsound.sendThrows hempty item.objectId true)
        (inTransit_sendThrows hempty (hsound.transmitting_of_picked hworker) item.objectId true)
  | accepted _ _ hworker => exact hsound.accepted hworker _ _
  | popped _ hworker => exact hsound.popFront hworker
  | ran _ hworker hnodup htois => exact hsound.runOne hworker hnodup htois
  | eventPopped _ hwaiting hcompleted => exact hsound.popSendCompleted hwaiting hcompleted
  | dispatched hpopped => exact hsound.dispatchSendCompleted hpopped
  | looked hhandling => exact hsound.lookAtSent hhandling
  | deleted hdeleting => exact hsound.deleteSent hdeleting
  | workerJoined _ _ hworker => exact turned_joinWorker hworker
  | eventsJoined => exact hsound.joinEvents

/-! ## The thread of the events -/

/-- What a step does to the thread of the events, to the subscription, and to the
store. -/
inductive EventsTurn (running : RunningPackager) (abandoned : Bool) (objects : ObjectStore) :
    PackagerLabel → Turn → Prop where
  | same {label : PackagerLabel} {after : Turn}
      (hthread : after.running.eventThread = running.eventThread)
      (hsubscribed : after.running.subscribed = running.subscribed)
      (hobjects : after.objects = objects) : EventsTurn running abandoned objects label after
  | popped {objectId : String} {rest : List String} (hwaiting : running.eventThread = .waiting)
      (hcompleted : running.packager.completed = objectId :: rest) :
      EventsTurn running abandoned objects .popSendCompleted ⟨{ running with
        packager := { running.packager with completed := rest }
        eventThread := .popped objectId }, objects, []⟩
  | dispatched {objectId : String} (hpopped : running.eventThread = .popped objectId) :
      EventsTurn running abandoned objects .dispatchSendCompleted
        ⟨running.dispatchSendCompleted objectId, objects, []⟩
  | looked {objectId : String} (hhandling : running.eventThread = .handling objectId) :
      EventsTurn running abandoned objects .lookAtSent (running.lookAtSent objects objectId)
  | deleted {objectId : String} (hdeleting : running.eventThread = .deleting objectId) :
      EventsTurn running abandoned objects .deleteSent
        ⟨{ running with eventThread := .waiting }, objects.deleteObject objectId, []⟩
  | joined (habandoned : abandoned = true) (hwaiting : running.eventThread = .waiting) :
      EventsTurn running abandoned objects .joinEvents ⟨running.joinEvents, objects, []⟩

theorem turn_events {abandoned : Bool} {label : PackagerLabel} {after : Turn}
    (hturn : running.turn abandoned objects label = some after) :
    EventsTurn running abandoned objects label after := by
  cases turn_taken hturn with
  | eventPopped _ hwaiting hcompleted => exact .popped hwaiting hcompleted
  | dispatched hpopped => exact .dispatched hpopped
  | looked hhandling => exact .looked hhandling
  | deleted hdeleting => exact .deleted hdeleting
  | eventsJoined habandoned _ hwaiting => exact .joined habandoned hwaiting
  | _ => exact .same rfl rfl rfl

/-- The lookup ends the handling, or leads to the deletion of an object that is not to
be kept. -/
theorem lookAtSent_eq (running : RunningPackager) (objects : ObjectStore) (objectId : String) :
    (running.lookAtSent objects objectId).objects = objects ∧
      ∃ eventThread, (running.lookAtSent objects objectId).running =
          { running with eventThread := eventThread } ∧
        (eventThread = .waiting ∨ (eventThread = .deleting objectId ∧
          ∃ metadata, objects.getMetadata objectId = .ok metadata ∧
            metadata.keepAfterSend = false)) := by
  unfold RunningPackager.lookAtSent
  split
  case h_1 => exact ⟨rfl, .waiting, rfl, .inl rfl⟩
  case h_2 metadata hmetadata =>
      split
      case isTrue => exact ⟨rfl, .waiting, rfl, .inl rfl⟩
      case isFalse hkeep =>
          have hnotKept : metadata.keepAfterSend = false := by simpa using hkeep
          exact ⟨rfl, .deleting objectId, rfl, .inr ⟨rfl, metadata, hmetadata, hnotKept⟩⟩

/-- A packager is subscribed to until its destructor tells the controller. -/
theorem turn_subscribed {label : PackagerLabel} {after : Turn}
    (hturn : running.turn false objects label = some after) :
    after.running.subscribed = running.subscribed := by
  cases turn_events hturn with
  | same _ hsubscribed _ => exact hsubscribed
  | popped => rfl
  | dispatched => rfl
  | looked =>
      obtain ⟨_, eventThread, hrunning, _⟩ := lookAtSent_eq running objects _
      rw [hrunning]
  | deleted => rfl
  | joined habandoned => cases habandoned

/-- What comes of no subscription. -/
theorem turn_not_subscribed {abandoned : Bool} {label : PackagerLabel} {after : Turn}
    (hsubscribed : running.subscribed = false)
    (hturn : running.turn abandoned objects label = some after) :
    after.running.subscribed = false := by
  cases turn_events hturn with
  | same _ hsame _ => exact hsame.trans hsubscribed
  | popped => exact hsubscribed
  | dispatched => exact hsubscribed
  | looked =>
      obtain ⟨_, eventThread, hrunning, _⟩ := lookAtSent_eq running objects _
      rw [hrunning]
      exact hsubscribed
  | deleted => exact hsubscribed
  | joined => rfl

/-- A completion that is dispatched to the controller gets to its `processEvent`. -/
theorem turn_inHandler {abandoned : Bool} {after : Turn} (hsubscribed : running.subscribed = true)
    (hturn : running.turn abandoned objects .dispatchSendCompleted = some after) :
    after.running.eventThread.InHandler := by
  cases turn_taken hturn with
  | dispatched hpopped =>
      simp only [RunningPackager.dispatchSendCompleted, if_pos hsubscribed]
      trivial

/-- A packager that is not subscribed to deletes nothing. -/
theorem turn_unsubscribed {abandoned : Bool} {label : PackagerLabel} {after : Turn}
    (hsubscribed : running.subscribed = false) (houtside : ¬ running.eventThread.InHandler)
    (hturn : running.turn abandoned objects label = some after) :
    (after.running.subscribed = false ∧ ¬ after.running.eventThread.InHandler) ∧
      after.objects = objects := by
  cases turn_events hturn with
  | same hthread hsame hobjects =>
      exact ⟨⟨hsame.trans hsubscribed, hthread ▸ houtside⟩, hobjects⟩
  | popped => exact ⟨⟨hsubscribed, id⟩, rfl⟩
  | dispatched =>
      refine ⟨⟨hsubscribed, ?_⟩, rfl⟩
      simp [dispatchSendCompleted, hsubscribed, EventThread.InHandler]
  | looked hhandling =>
      rw [hhandling] at houtside
      exact absurd trivial houtside
  | deleted hdeleting =>
      rw [hdeleting] at houtside
      exact absurd trivial houtside
  | joined => exact ⟨⟨rfl, houtside⟩, rfl⟩

/-- The thread of the events comes to a deletion from the lookup only. -/
theorem turn_deleting {abandoned : Bool} {label : PackagerLabel} {after : Turn}
    {objectId : String} (hturn : running.turn abandoned objects label = some after)
    (hdeleting : after.running.eventThread = .deleting objectId) :
    running.eventThread = .deleting objectId ∨
      (label = .lookAtSent ∧ running.eventThread = .handling objectId ∧
        ∃ metadata, objects.getMetadata objectId = .ok metadata ∧
          metadata.keepAfterSend = false) := by
  cases turn_events hturn with
  | same hthread => exact .inl (hthread.symm.trans hdeleting)
  | popped => cases hdeleting
  | dispatched =>
      change (if running.subscribed then _ else _) = _ at hdeleting
      split at hdeleting
      · cases hdeleting
      · cases hdeleting
  | @looked other hhandling =>
      obtain ⟨_, eventThread, hrunning, hcases⟩ := lookAtSent_eq running objects other
      rw [hrunning] at hdeleting
      obtain rfl | ⟨rfl, hmetadata⟩ := hcases
      · cases hdeleting
      · obtain rfl := EventThread.deleting.inj hdeleting
        exact .inr ⟨rfl, hhandling, hmetadata⟩
  | deleted => cases hdeleting
  | joined _ hwaiting => cases hwaiting.symm.trans hdeleting

end RunningPackager

end Mbstf.Controller
