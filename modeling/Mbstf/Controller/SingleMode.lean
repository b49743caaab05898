import Mbstf.Controller.Startup

/-!
# Sent objects in single mode

An `ObjectListController` is not subscribed to its packager, and its `processEvent`
does not pass events on to that of `ObjectController`.  So no event of its packager is
handled, and what was added to the store stays there.
-/

namespace Mbstf.Controller

open Std Mbstf.Objects Mbstf.Runs Mbstf.Session

/-- A list controller with its threads, and the objects whose transmission has
completed. -/
structure Single where
  system : System
  sent : List String

/-- The objects whose transmission is completed in a step. -/
def completedBy (system : System) : Label → List String
  | .packager index (.runOne tois) =>
      match system.packagers[index]? with
      | none => []
      | some running =>
          if running.packager.queuedToi ∈ tois then [running.packager.queuedObjectId] else []
  | _ => []

namespace Single

variable (destIpAddr : Option String)

/-- A list controller has no manifest URL. -/
def setup : Setup := ⟨.objectList, "", destIpAddr⟩

def start : Single := ⟨.start (setup destIpAddr), []⟩

/-- One step; an object that is added has an id that was not used before. -/
def step (single : Single) (label : Label) : Option Single :=
  if (System.addedBy label).all (· ∉ single.system.books.added) then
    (single.system.step (setup destIpAddr) label).map fun next =>
      ⟨next, single.sent ++ completedBy single.system label⟩
  else none

/-- The object stays after it is sent, as its metadata say, if it is in the store. -/
def KeptAfterSend (objects : ObjectStore) (objectId : String) : Prop :=
  ∀ object, objects.store[objectId]? = some object → object.2.keepAfterSend = true

/-- The queues of the events of the store and of the packagers are empty. -/
def QueuesEmpty (single : Single) : Prop :=
  single.system.objects.events = [] ∧
    ∀ running ∈ single.system.packagers, running.packager.completed = []

/-- Of the objects that were sent, those in the store are to be kept. -/
def SentLeft (single : Single) : Prop :=
  ∀ objectId ∈ single.sent, KeptAfterSend single.system.objects objectId

/-- A transmission is completed of an object that is to be kept only. -/
def CompletesKept (single : Single) (label : Label) : Prop :=
  ∀ objectId ∈ completedBy single.system label, KeptAfterSend single.system.objects objectId

/-- No event of a packager is handled, or is going to be. -/
structure Unheard (system : System) : Prop where
  remaining : .subscribeToPackager ∉ system.remaining
  unsubscribed : ∀ running ∈ system.packagers,
    running.subscribed = false ∧ ¬ running.eventThread.InHandler

end Single

/-! ## What the steps leave in the store -/

namespace Single

variable {destIpAddr : Option String} {system next : System} {label : Label}

/-- A step leaves the events of packagers unheard, and the store as it is but for an
object that is added. -/
structure Quiet (label : Label) (system next : System) : Prop where
  unheard : Unheard next
  store : ∀ objectId, System.addedBy label ≠ some objectId →
    next.objects.store[objectId]? = system.objects.store[objectId]?

/-- A step that leaves the packagers alone. -/
theorem Quiet.same (hunheard : Unheard system)
    (hremaining : next.remaining <:+ system.remaining)
    (hpackagers : next.packagers = system.packagers)
    (hstore : next.objects.store = system.objects.store) : Quiet label system next where
  unheard := by
    refine ⟨fun hmem => hunheard.remaining (hremaining.subset hmem), ?_⟩
    rw [hpackagers]
    exact hunheard.unsubscribed
  store := by
    intro objectId _
    rw [hstore]

/-- A new packager has no subscriber. -/
theorem Unheard.setPackager (hunheard : Unheard system) :
    Unheard (system.setPackager (setup destIpAddr)) := by
  refine ⟨hunheard.remaining, ?_⟩
  intro running hrunning
  cases List.mem_append.mp hrunning with
  | inl hold => exact hunheard.unsubscribed running hold
  | inr hnew =>
      rw [List.mem_singleton.mp hnew]
      exact ⟨rfl, id⟩

theorem Unheard.set {index : ℕ} {running : RunningPackager} (hunheard : Unheard system)
    (hrunning : running.subscribed = false ∧ ¬ running.eventThread.InHandler) :
    ∀ other ∈ system.packagers.set index running,
      other.subscribed = false ∧ ¬ other.eventThread.InHandler :=
  Held.forall_mem_set hunheard.unsubscribed index hrunning

theorem Quiet.addObject (hunheard : Unheard system) (added : String) (data : ObjectData)
    (metadata : Metadata) :
    Quiet (.addObject added data metadata) system { system with
      objects := system.objects.addObject added data metadata
      books := { system.books with added := system.books.added ++ [added] } } := by
  refine ⟨⟨hunheard.remaining, hunheard.unsubscribed⟩, ?_⟩
  intro objectId hother
  have hne : added ≠ objectId := fun hsame => hother (congrArg some hsame)
  rw [ObjectStore.addObject, ObjectStore.getElem?_insertOrAssign, if_neg hne]

theorem Quiet.packager (hunheard : Unheard system) {index : ℕ} {running : RunningPackager}
    (hrunning : system.packagers[index]? = some running) {packagerLabel : PackagerLabel}
    {turn : Turn}
    (hturn : running.turn (system.abandoned index) system.objects packagerLabel = some turn) :
    Quiet label system { system with
      objects := turn.objects
      packagers := system.packagers.set index turn.running
      books := { system.books with failed := system.books.failed ++ turn.failed } } := by
  obtain ⟨hsubscribed, hthread⟩ := hunheard.unsubscribed running (List.mem_of_getElem? hrunning)
  obtain ⟨hafter, hobjects⟩ := RunningPackager.turn_unsubscribed hsubscribed hthread hturn
  refine ⟨⟨hunheard.remaining, hunheard.set hafter⟩, ?_⟩
  intro objectId _
  rw [hobjects]

theorem step_quiet (hunheard : Unheard system)
    (hstep : system.step (setup destIpAddr) label = some next) : Quiet label system next := by
  have hset : Unheard (system.setPackager (setup destIpAddr)) := hunheard.setPackager
  have hsuffix := System.step_remaining hstep
  cases System.step_taken hstep with
  | setOwnPackager _ hremaining =>
      have hlater : .subscribeToPackager ∉ system.remaining := hunheard.remaining
      rw [hremaining] at hlater
      exact ⟨⟨List.not_mem_of_not_mem_cons hlater, hset.unsubscribed⟩, fun _ _ => rfl⟩
  | subscribeToPackager hremaining =>
      exact absurd (hremaining ▸ List.mem_cons_self) hunheard.remaining
  | addObject objectId data metadata => exact .addObject hunheard objectId data metadata
  | checkFailed _ hkind => cases hkind
  | manifest _ hkind => cases hkind
  | noManifest _ hkind => cases hkind
  | setObjectListPackager => exact ⟨⟨hset.remaining, hset.unsubscribed⟩, fun _ _ => rfl⟩
  | addItem _ hrunning =>
      have hold := hunheard.unsubscribed _ (List.mem_of_getElem? hrunning)
      exact ⟨⟨hunheard.remaining, hunheard.set hold⟩, fun _ _ => rfl⟩
  | packager hrunning hturn => exact .packager hunheard hrunning hturn
  | _ => exact .same hunheard hsuffix rfl rfl

/-! ## Runs -/

/-- The invariant of runs: what was sent was added, under an id that is not added
again. -/
structure Leaking (single : Single) : Prop where
  unheard : Unheard single.system
  sound : single.system.PackagersSound
  fresh : single.system.Fresh
  nodup : single.system.books.added.Nodup
  sent : ∀ objectId ∈ single.sent, objectId ∈ single.system.books.added

/-- What is completed was with the transmitter. -/
theorem completedBy_added (hsound : system.PackagersSound) (hfresh : system.Fresh)
    {setup : Setup} (hstep : system.step setup label = some next) :
    ∀ objectId ∈ completedBy system label, objectId ∈ system.books.added := by
  intro objectId hmem
  cases label with
  | packager index packagerLabel =>
      cases packagerLabel with
      | runOne tois =>
          cases System.step_taken hstep with
          | packager hrunning hturn =>
              obtain ⟨⟨_, _, _, htois⟩, _⟩ := Option.ite_none_right_eq_some.mp hturn
              simp only [completedBy, hrunning] at hmem
              obtain ⟨htoi, hmem⟩ := List.mem_ite_nil_right.mp hmem
              obtain rfl := List.mem_singleton.mp hmem
              have hrunning' := List.mem_of_getElem? hrunning
              apply hfresh.added _ (System.mem_inTransit_of_packager hrunning' _)
              apply System.queuedObjectId_mem_inTransit (hsound _ hrunning')
              exact List.ne_nil_of_mem (htois _ htoi)
      | _ => cases hmem
  | _ => cases hmem

theorem Leaking.step {single next : Single} (hleaking : single.Leaking)
    (hstep : single.step destIpAddr label = some next) :
    next.Leaking ∧ (next.SentLeft ↔ single.SentLeft ∧ single.CompletesKept label) := by
  obtain ⟨hnew, hafter⟩ := Option.ite_none_right_eq_some.mp hstep
  obtain ⟨system, hsystem, rfl⟩ := Option.map_eq_some_iff.mp hafter
  obtain ⟨hunheard, hsound, hfresh, hnodup, hsent⟩ := hleaking
  have hnotAdded : ∀ objectId ∈ single.system.books.added,
      System.addedBy label ≠ some objectId := by
    intro objectId hmem hadded
    rw [hadded, Option.all_some, decide_eq_true_eq] at hnew
    exact hnew hmem
  have hstepped := System.step_stepped hsound hsystem
  have hquiet := step_quiet hunheard hsystem
  have hcompleted := completedBy_added hsound hfresh hsystem
  have hall : ∀ objectId ∈ single.sent ++ completedBy single.system label,
      objectId ∈ single.system.books.added := by
    intro objectId hmem
    exact (List.mem_append.mp hmem).elim (hsent objectId) (hcompleted objectId)
  have hnodup' : system.books.added.Nodup := by
    rw [hstepped.added_eq, List.nodup_append]
    refine ⟨hnodup, ?_, ?_⟩
    · cases System.addedBy label with
      | none => exact List.nodup_nil
      | some added => exact List.nodup_singleton added
    · rintro objectId hold other hother rfl
      exact hnotAdded objectId hold (Option.mem_toList.mp hother)
  refine ⟨⟨hquiet.unheard, hstepped.sound, hfresh.step hstepped hnodup', hnodup', ?_⟩, ?_⟩
  · intro objectId hmem
    rw [hstepped.added_eq]
    exact List.mem_append_left _ (hall objectId hmem)
  · have hsame : ∀ objectId ∈ single.sent ++ completedBy single.system label,
        (KeptAfterSend system.objects objectId ↔
          KeptAfterSend single.system.objects objectId) := by
      intro objectId hmem
      rw [KeptAfterSend, KeptAfterSend,
        hquiet.store objectId (hnotAdded objectId (hall objectId hmem))]
    calc
      (∀ objectId ∈ single.sent ++ completedBy single.system label,
          KeptAfterSend system.objects objectId)
          ↔ ∀ objectId ∈ single.sent ++ completedBy single.system label,
              KeptAfterSend single.system.objects objectId :=
        forall₂_congr hsame
      _ ↔ single.SentLeft ∧ single.CompletesKept label := List.forall_mem_append

theorem leaking_start : (start destIpAddr).Leaking where
  unheard := by
    constructor
    · change .subscribeToPackager ∉ constructorSteps .objectList
      decide
    · intro running hrunning
      cases hrunning
  sound := System.packagersSound_start _
  fresh := System.fresh_start _
  nodup := List.nodup_nil
  sent := by
    intro objectId hmem
    cases hmem

/-- In a state that a list controller can reach, what was sent and is not to be kept has
left the store if and only if nothing of the kind was sent: the store keeps all it is
given. -/
theorem run_sentLeft_iff {labels : List Label} {final : Single}
    (hrun : run (step destIpAddr) (start destIpAddr) labels = some final) :
    final.SentLeft ↔ Guarded (step destIpAddr) CompletesKept (start destIpAddr) labels := by
  have hkept : ∀ (single : Single) (label : Label) (next : Single), single.Leaking →
      single.step destIpAddr label = some next → next.Leaking :=
    fun _ _ _ hleaking hstep => (hleaking.step hstep).1
  have hsent : ∀ (single : Single) (label : Label) (next : Single), single.Leaking →
      single.step destIpAddr label = some next →
        (next.SentLeft ↔ single.SentLeft ∧ single.CompletesKept label) :=
    fun _ _ _ hleaking hstep => (hleaking.step hstep).2
  have hiff := run_iff_guarded hkept hsent leaking_start hrun
  rw [hiff]
  refine and_iff_right ?_
  intro objectId hmem
  cases hmem

/-- An object that is added, packaged and sent; the completion is dispatched. -/
def sendOne (keepAfterSend : Bool) : List Label :=
  [.construct, .construct, .construct,
    .addObject "1" [7] { Metadata.new 100 "1" "text/plain" "http://example.com/object1"
      "http://example.com/object1" "acq1" 90 none none none with keepAfterSend := keepAfterSend },
    .popEvent, .dispatch, .handle, .addItem, .packager 0 (.beginRound false),
    .packager 0 (.send 0 (.accepted 1)), .packager 0 .popFront, .packager 0 (.runOne [1]),
    .packager 0 .popSendCompleted, .packager 0 .dispatchSendCompleted]

theorem sendOne_kept :
    ∃ final, run (step (some "239.0.0.1")) (start (some "239.0.0.1")) (sendOne true) =
        some final ∧
      final.sent = ["1"] ∧ final.SentLeft ∧
      Guarded (step (some "239.0.0.1")) CompletesKept (start (some "239.0.0.1"))
        (sendOne true) := by
  have hends : (run (step (some "239.0.0.1")) (start (some "239.0.0.1")) (sendOne true)).any
      (fun final => final.sent = ["1"] ∧
        (final.system.objects.store["1"]?).all (fun object => object.2.keepAfterSend) =
          true) = true := by
    decide +kernel
  obtain ⟨final, hrun, hfinal⟩ := (Option.any_eq_true _ _).mp hends
  obtain ⟨hsent, hkept⟩ := of_decide_eq_true hfinal
  have hleft : final.SentLeft := by
    intro objectId hmem object hfound
    rw [hsent] at hmem
    obtain rfl := List.mem_singleton.mp hmem
    exact (Option.all_eq_true _ _).mp hkept object hfound
  exact ⟨final, hrun, hsent, hleft, (run_sentLeft_iff hrun).mp hleft⟩

theorem sendOne_not_sentLeft :
    ∃ final, run (step (some "239.0.0.1")) (start (some "239.0.0.1")) (sendOne false) =
        some final ∧
      final.QueuesEmpty ∧ final.sent = ["1"] ∧ final.system.objects.store.keys = ["1"] ∧
      ¬ final.SentLeft := by
  have hends : (run (step (some "239.0.0.1")) (start (some "239.0.0.1")) (sendOne false)).any
      (fun final =>
        final.system.objects.events = [] ∧
          (∀ running ∈ final.system.packagers, running.packager.completed = []) ∧
          final.sent = ["1"] ∧ final.system.objects.store.keys = ["1"] ∧
          (final.system.objects.store["1"]?).any (fun object => !object.2.keepAfterSend) =
            true) = true := by
    decide +kernel
  obtain ⟨final, hrun, hfinal⟩ := (Option.any_eq_true _ _).mp hends
  obtain ⟨hevents, hcompleted, hsent, hkeys, hobject⟩ := of_decide_eq_true hfinal
  refine ⟨final, hrun, ⟨hevents, hcompleted⟩, hsent, hkeys, fun hleft => ?_⟩
  obtain ⟨object, hfound, hnot⟩ := (Option.any_eq_true _ _).mp hobject
  have hkept := hleft "1" (by rw [hsent]; exact List.mem_singleton_self "1") object hfound
  rw [hkept] at hnot
  cases hnot

end Single

end Mbstf.Controller
