import Mbstf.Controller.System
import Mbstf.Subscription.AsyncLoop

/-!
# The threads of events in their loops

The threads that hand events to a controller, that of its store and those of its packagers,
are in `asyncEventsLoop`.  The model of the controller has two of the steps of the loop: an
event is taken from the queue, and it is dispatched.  The others leave the controller as it
is.
-/

namespace Mbstf.Controller

open Mbstf.Objects Mbstf.Subscription Mbstf.Subscription.AsyncService

/-- A thread as the controller has it, with its queue, the event in its hand, and whether it
is in the controller's `processEvent`, is where the loop of the service is; `event` is what a
pointer in the queue points to. -/
structure FollowsLoop {Event : Type*} (event : EventPtr → Event) (service : AsyncService)
    (events : List Event) (inHand : Option Event) (handling : Prop) : Prop where
  queue : events = service.asyncEventQueue.map event
  inHand : inHand.toList = service.loop.inHand.map event
  dispatching : handling → service.loop = .dispatching
  sending : handling → 0 < (service.activity .asyncThread).depth

/-- The step of the loop takes the event in front, passes the one in hand to
`sendEventSynchronous`, or does neither. -/
theorem loopStep_cases {service next : AsyncService} (hstep : service.loopStep = some next) :
    (∃ front, service.loop = .whileNotEmpty ∧
      service.asyncEventQueue = front :: next.asyncEventQueue ∧ next.loop = .popped front) ∨
    (∃ front, service.loop = .popped front ∧
      next.asyncEventQueue = service.asyncEventQueue ∧ next.loop = .dispatching ∧
      next.activity .asyncThread = ⟨1, .betweenSubscribers⟩) ∨
    (service.loop.inHand = [] ∧ next.loop.inHand = [] ∧
      next.asyncEventQueue = service.asyncEventQueue ∧
      (service.loop = .dispatching → service.activity .asyncThread = ⟨0, .outside⟩)) := by
  -- at a point with no event in hand, outside the sends
  have helsewhere : ∀ {point : LoopPoint}, service.loop = point → point.inHand = [] →
      point ≠ .dispatching → service.loop.inHand = [] ∧
        (service.loop = .dispatching → service.activity .asyncThread = ⟨0, .outside⟩) := by
    rintro point rfl hnone hother
    exact ⟨hnone, fun hsame => absurd hsame hother⟩
  unfold AsyncService.loopStep at hstep
  split at hstep
  case h_1 => cases hstep
  case h_2 hloop =>
      obtain ⟨hnone, hleft⟩ := helsewhere hloop rfl (by simp)
      split at hstep
      · obtain rfl := Option.some.inj hstep
        exact .inr (.inr ⟨hnone, rfl, rfl, hleft⟩)
      · obtain ⟨mutex, -, rfl⟩ := lock_eq_some hstep
        exact .inr (.inr ⟨hnone, rfl, rfl, hleft⟩)
  case h_3 hloop =>
      obtain ⟨hnone, hleft⟩ := helsewhere hloop rfl (by simp)
      split at hstep
      · obtain rfl := Option.some.inj hstep
        exact .inr (.inr ⟨hnone, rfl, rfl, hleft⟩)
      · obtain rfl := Option.some.inj hstep
        exact .inr (.inr ⟨hnone, rfl, rfl, hleft⟩)
  case h_4 hloop =>
      obtain ⟨hnone, hleft⟩ := helsewhere hloop rfl (by simp)
      obtain ⟨mutex, -, rfl⟩ := lock_eq_some hstep
      exact .inr (.inr ⟨hnone, rfl, rfl, hleft⟩)
  case h_5 hloop =>
      obtain ⟨hnone, hleft⟩ := helsewhere hloop rfl (by simp)
      split at hstep
      case h_1 front rest _ hqueue =>
          obtain rfl := Option.some.inj hstep
          exact .inl ⟨front, hloop, hqueue, rfl⟩
      case h_2 =>
          obtain rfl := Option.some.inj hstep
          exact .inr (.inr ⟨hnone, rfl, rfl, hleft⟩)
  case h_6 front hloop =>
      obtain ⟨mutex, -, rfl⟩ := lock_eq_some hstep
      exact .inr (.inl ⟨front, hloop, rfl, rfl, by simp [AsyncService.setActivity]⟩)
  case h_7 hloop =>
      obtain ⟨hidle, hlock⟩ := Option.ite_none_right_eq_some.mp hstep
      obtain ⟨mutex, -, rfl⟩ := lock_eq_some hlock
      exact .inr (.inr ⟨by rw [hloop]; rfl, rfl, rfl, fun _ => hidle⟩)
  case h_8 => cases hstep

namespace FollowsLoop

variable {Event : Type*} {event : EventPtr → Event} {service next : AsyncService}
  {events : List Event} {inHand : Option Event} {handling : Prop}

/-- With an event in hand the thread is not in `processEvent`. -/
theorem not_handling (hfollows : FollowsLoop event service events inHand handling)
    (hloop : service.loop ≠ .dispatching) : ¬ handling :=
  fun hhandling => hloop (hfollows.dispatching hhandling)

/-- A step of the loop takes the event in front, dispatches the one in hand, or is nothing to
the controller. -/
theorem loopStep (hfollows : FollowsLoop event service events inHand handling)
    (hstep : service.loopStep = some next) :
    (∃ front rest, events = front :: rest ∧ inHand = none ∧ ¬ handling ∧
      FollowsLoop event next rest (some front) False) ∨
    (∃ front, inHand = some front ∧ ¬ handling ∧
      ∀ after, FollowsLoop event next events none after) ∨
    FollowsLoop event next events inHand handling := by
  obtain ⟨front, hloop, hqueue, hpopped⟩ | ⟨front, hloop, hqueue, hdispatching, hsending⟩ |
    ⟨hbefore, hafter, hqueue, hleft⟩ := loopStep_cases hstep
  · left
    have hnone : inHand = none := by
      rw [← Option.toList_eq_nil_iff, hfollows.inHand, hloop]
      rfl
    refine ⟨event front, next.asyncEventQueue.map event, ?_, hnone,
      hfollows.not_handling (by simp [hloop]), rfl, ?_, False.elim, False.elim⟩
    · rw [hfollows.queue, hqueue, List.map_cons]
    · rw [hpopped]
      rfl
  · right; left
    have hsome : inHand = some (event front) := by
      have hlist := hfollows.inHand
      rw [hloop] at hlist
      cases inHand with
      | none => cases hlist
      | some one => exact congrArg some (List.singleton_inj.mp hlist)
    refine ⟨event front, hsome, hfollows.not_handling (by simp [hloop]), fun after => ?_⟩
    refine ⟨?_, ?_, fun _ => hdispatching, fun _ => ?_⟩
    · rw [hfollows.queue, hqueue]
    · rw [hdispatching]
      rfl
    · rw [hsending]
      exact Nat.one_pos
  · right; right
    have hnot : ¬ handling := by
      intro hhandling
      have hdepth := hfollows.sending hhandling
      rw [hleft (hfollows.dispatching hhandling)] at hdepth
      exact absurd hdepth (lt_irrefl 0)
    refine ⟨?_, ?_, fun hhandling => absurd hhandling hnot, fun hhandling => absurd hhandling hnot⟩
    · rw [hfollows.queue, hqueue]
    · rw [hfollows.inHand, hbefore, hafter]

theorem startAsyncLoop (hfollows : FollowsLoop event service events inHand handling) :
    FollowsLoop event service.startAsyncLoop events inHand handling := by
  unfold AsyncService.startAsyncLoop
  split
  case h_1 hloop =>
      split
      · exact hfollows
      · refine ⟨hfollows.queue, ?_, fun hhandling => ?_, hfollows.sending⟩
        · rw [hfollows.inHand, hloop]
          rfl
        · exact absurd hhandling (hfollows.not_handling (by simp [hloop]))
  case h_2 => exact hfollows

theorem depth_setActivity (service : AsyncService) (thread : Thread) (depth : ℕ)
    (point : SendPoint) :
    ((service.setActivity thread depth point).activity .asyncThread).depth =
      if thread = .asyncThread then depth else (service.activity .asyncThread).depth := by
  by_cases hthread : thread = .asyncThread
  · simp [AsyncService.setActivity, hthread]
  · simp [AsyncService.setActivity, hthread, Function.update_of_ne (Ne.symm hthread)]

/-- A thread that goes on in its sends, however deep it is in them then. -/
theorem setActivity (hfollows : FollowsLoop event service events inHand handling) {thread : Thread}
    {depth : ℕ} (point : SendPoint)
    (hdepth : thread = .asyncThread → handling → 0 < depth) :
    FollowsLoop event (service.setActivity thread depth point) events inHand handling where
  queue := hfollows.queue
  inHand := hfollows.inHand
  dispatching := hfollows.dispatching
  sending := by
    intro hhandling
    rw [depth_setActivity]
    split
    case isTrue hthread => exact hdepth hthread hhandling
    case isFalse => exact hfollows.sending hhandling

theorem same_depth (hfollows : FollowsLoop event service events inHand handling) {thread : Thread}
    (hthread : thread = .asyncThread) (hhandling : handling) :
    0 < (service.activity thread).depth :=
  hthread ▸ hfollows.sending hhandling

/-- An event that any thread sends is behind the others. -/
theorem pushBack (hfollows : FollowsLoop event service events inHand handling) {thread : Thread}
    {pushed : EventPtr} (hpoint : (service.activity thread).point = .pushing pushed)
    (hstep : service.step (.pushBack thread) = some next) :
    FollowsLoop event next (events ++ [event pushed]) inHand handling := by
  simp only [AsyncService.step, hpoint, Option.some.injEq] at hstep
  subst hstep
  have hmoved : FollowsLoop event
      (service.setActivity thread (service.activity thread).depth .pushed) events inHand handling :=
    hfollows.setActivity _ hfollows.same_depth
  refine FollowsLoop.startAsyncLoop ⟨?_, hmoved.inHand, hmoved.dispatching, hmoved.sending⟩
  change _ = (service.asyncEventQueue ++ [pushed]).map event
  rw [hfollows.queue, List.map_append, List.map_singleton]

theorem lock (hfollows : FollowsLoop event service events inHand handling) {thread : Thread}
    (hlock : service.lock thread = some next) : FollowsLoop event next events inHand handling := by
  obtain ⟨mutex, -, rfl⟩ := lock_eq_some hlock
  exact ⟨hfollows.queue, hfollows.inHand, hfollows.dispatching, hfollows.sending⟩

theorem unlock (hfollows : FollowsLoop event service events inHand handling) (thread : Thread) :
    FollowsLoop event (service.unlock thread) events inHand handling :=
  ⟨hfollows.queue, hfollows.inHand, hfollows.dispatching, hfollows.sending⟩

/-- What else a thread does in a service is nothing to the controller, as long as the loop
does not leave its `sendEventSynchronous` while the controller is in `processEvent`. -/
theorem step (hfollows : FollowsLoop event service events inHand handling)
    {label : AsyncService.Label} (hloop : label ≠ .loopStep)
    (hpush : ∀ thread, label ≠ .pushBack thread)
    (hstays : label = .handlerThrows .asyncThread ∨ label = .leaveSend .asyncThread →
      handling → 1 < (service.activity .asyncThread).depth)
    (hstep : service.step label = some next) : FollowsLoop event next events inHand handling := by
  cases label with
  | lockToPush thread pushed =>
      obtain ⟨-, hlock⟩ := Option.ite_none_right_eq_some.mp hstep
      exact (hfollows.setActivity _ hfollows.same_depth).lock hlock
  | pushBack thread => exact absurd rfl (hpush thread)
  | unlockPushed thread =>
      obtain ⟨-, hnext⟩ := Option.ite_none_right_eq_some.mp hstep
      obtain rfl := Option.some.inj hnext
      exact (hfollows.setActivity _ hfollows.same_depth).unlock thread
  | enterSend thread =>
      obtain ⟨-, hlock⟩ := Option.ite_none_right_eq_some.mp hstep
      exact (hfollows.setActivity _ fun _ _ => Nat.succ_pos _).lock hlock
  | callHandler thread =>
      obtain ⟨-, hnext⟩ := Option.ite_none_right_eq_some.mp hstep
      obtain rfl := Option.some.inj hnext
      exact (hfollows.setActivity _ hfollows.same_depth).unlock thread
  | handlerReturns thread =>
      obtain ⟨-, hlock⟩ := Option.ite_none_right_eq_some.mp hstep
      exact (hfollows.setActivity _ hfollows.same_depth).lock hlock
  | handlerThrows thread =>
      obtain ⟨-, hnext⟩ := Option.ite_none_right_eq_some.mp hstep
      obtain rfl := Option.some.inj hnext
      refine (hfollows.setActivity _ ?_).unlock thread
      rintro rfl hhandling
      exact Nat.sub_pos_of_lt (hstays (.inl rfl) hhandling)
  | leaveSend thread =>
      obtain ⟨-, hnext⟩ := Option.ite_none_right_eq_some.mp hstep
      obtain rfl := Option.some.inj hnext
      refine (hfollows.setActivity _ ?_).unlock thread
      rintro rfl hhandling
      exact Nat.sub_pos_of_lt (hstays (.inr rfl) hhandling)
  | stopAsyncLoop =>
      obtain rfl := Option.some.inj hstep
      rw [AsyncService.stopAsyncLoop]
      split
      · exact hfollows
      · exact ⟨hfollows.queue, hfollows.inHand, hfollows.dispatching, hfollows.sending⟩
  | loopStep => exact absurd rfl hloop

end FollowsLoop

/-! ## The thread of the store -/

/-- The event that the thread has taken and not dispatched. -/
def StoreThread.inHand : StoreThread → Option StoreEvent
  | .popped event => some event
  | _ => none

namespace System

variable {event : EventPtr → StoreEvent} {service next : AsyncService} {system : System}

/-- The thread of the store is where the loop of the store is. -/
def FollowsStore (event : EventPtr → StoreEvent) (service : AsyncService) (system : System) :
    Prop :=
  FollowsLoop event service system.objects.events system.storeThread.inHand
    system.storeThread.InHandler

theorem followsStore_start (event : EventPtr → StoreEvent) (setup : Setup) :
    FollowsStore event .new (start setup) :=
  ⟨rfl, rfl, False.elim, False.elim⟩

/-- With the push of its event an object is added. -/
theorem followsStore_addObject (hfollows : FollowsStore event service system) {thread : Thread}
    {pushed : EventPtr} (hpoint : (service.activity thread).point = .pushing pushed)
    (hstep : service.step (.pushBack thread) = some next) {objectId : String}
    (hevent : event pushed = .objectAdded objectId) {data : ObjectData} {metadata : Metadata}
    {after : System} (hadd : system.addObject objectId data metadata = some after) :
    FollowsStore event next after := by
  obtain ⟨-, hafter⟩ := Option.ite_none_right_eq_some.mp hadd
  obtain rfl := Option.some.inj hafter
  have hpushed := FollowsLoop.pushBack hfollows hpoint hstep
  rw [hevent] at hpushed
  exact hpushed

theorem waiting_of_inHand {thread : StoreThread} (hnone : thread.inHand = none)
    (hnot : ¬ thread.InHandler) : thread = .waiting := by
  cases thread with
  | waiting => rfl
  | popped event => cases hnone
  | _ => exact absurd trivial hnot

theorem popped_of_inHand {thread : StoreThread} {front : StoreEvent}
    (hsome : thread.inHand = some front) : thread = .popped front := by
  cases thread with
  | popped event => exact congrArg StoreThread.popped (Option.some.inj hsome)
  | _ => cases hsome

/-- The dispatch of an event in hand leaves the queue, and no event in hand. -/
theorem exists_dispatch {front : StoreEvent} (hthread : system.storeThread = .popped front) :
    ∃ after, system.dispatch = some after ∧ after.objects.events = system.objects.events ∧
      after.storeThread.inHand = none := by
  cases front with
  | objectAdded objectId =>
      by_cases hsubscribed : system.subscribed = true
      · refine ⟨{ system with storeThread := .handling objectId }, ?_, rfl, rfl⟩
        rw [dispatch, hthread]
        exact if_pos hsubscribed
      · refine ⟨system.drop objectId, ?_, rfl, rfl⟩
        rw [dispatch, hthread]
        exact if_neg hsubscribed
  | objectDeleted objectId =>
      refine ⟨{ system with storeThread := if system.subscribed then .passing else .waiting },
        by rw [dispatch, hthread], rfl, ?_⟩
      change StoreThread.inHand (if system.subscribed then _ else _) = none
      split
      · rfl
      · rfl

/-- A step of the loop of the store is `popEvent`, `dispatch`, or nothing to the controller. -/
theorem followsStore_loopStep (hfollows : FollowsStore event service system)
    (hstep : service.loopStep = some next) :
    ∃ after, (after = system ∨ system.popEvent = some after ∨ system.dispatch = some after) ∧
      FollowsStore event next after := by
  obtain ⟨front, rest, hevents, hnone, hnot, hafter⟩ | ⟨front, hsome, -, hafter⟩ | hsame :=
    FollowsLoop.loopStep hfollows hstep
  · refine ⟨{ system with
      objects := { system.objects with events := rest }
      storeThread := .popped front }, .inr (.inl ?_), hafter⟩
    rw [popEvent, waiting_of_inHand hnone hnot, hevents]
  · obtain ⟨after, hdispatch, hevents, hnone⟩ := exists_dispatch (popped_of_inHand hsome)
    refine ⟨after, .inr (.inr hdispatch), ?_⟩
    rw [FollowsStore, hevents, hnone]
    exact hafter _
  · exact ⟨system, .inl rfl, hsame⟩

end System

/-! ## The thread of a packager -/

/-- The object of the event that the thread has taken and not dispatched. -/
def EventThread.inHand : EventThread → Option String
  | .popped objectId => some objectId
  | _ => none

namespace RunningPackager

variable {event : EventPtr → String} {service next : AsyncService} {running : RunningPackager}

/-- The thread of the packager is where the loop of the packager is. -/
def FollowsPackager (event : EventPtr → String) (service : AsyncService)
    (running : RunningPackager) : Prop :=
  FollowsLoop event service running.packager.completed running.eventThread.inHand
    running.eventThread.InHandler

theorem followsPackager_new (event : EventPtr → String) (destIpAddr : Option String) :
    FollowsPackager event .new (new destIpAddr) :=
  ⟨rfl, rfl, False.elim, False.elim⟩

theorem waiting_of_inHand {thread : EventThread} (hnone : thread.inHand = none)
    (hnot : ¬ thread.InHandler) : thread = .waiting := by
  cases thread with
  | waiting => rfl
  | popped objectId => cases hnone
  | _ => exact absurd trivial hnot

theorem popped_of_inHand {thread : EventThread} {front : String}
    (hsome : thread.inHand = some front) : thread = .popped front := by
  cases thread with
  | popped objectId => exact congrArg EventThread.popped (Option.some.inj hsome)
  | _ => cases hsome

/-- A step of the loop of a packager, whose thread is joined in the destructor, is
`popSendCompleted`, `dispatchSendCompleted`, or nothing to the controller. -/
theorem followsPackager_loopStep (hfollows : FollowsPackager event service running)
    (hlife : running.life ≠ .destroyed) (abandoned : Bool) (objects : ObjectStore)
    (hstep : service.loopStep = some next) :
    ∃ after, (after = running ∨
        running.turn abandoned objects .popSendCompleted = some ⟨after, objects, []⟩ ∨
        running.turn abandoned objects .dispatchSendCompleted = some ⟨after, objects, []⟩) ∧
      FollowsPackager event next after := by
  obtain ⟨front, rest, hevents, hnone, hnot, hafter⟩ | ⟨front, hsome, -, hafter⟩ | hsame :=
    FollowsLoop.loopStep hfollows hstep
  · refine ⟨{ running with
      packager := { running.packager with completed := rest }
      eventThread := .popped front }, .inr (.inl ?_), hafter⟩
    rw [turn, if_neg hlife, popSendCompleted, waiting_of_inHand hnone hnot, hevents]
    rfl
  · refine ⟨running.dispatchSendCompleted front, .inr (.inr ?_), ?_⟩
    · rw [turn, popped_of_inHand hsome]
    · have hdone : (running.dispatchSendCompleted front).eventThread.inHand = none := by
        change EventThread.inHand (if running.subscribed then _ else _) = none
        split
        · rfl
        · rfl
      rw [FollowsPackager, hdone]
      exact hafter _
  · exact ⟨running, .inl rfl, hsame⟩

end RunningPackager

end Mbstf.Controller
