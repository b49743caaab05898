import Mbstf.Core.Runs
import Mbstf.Core.SharedMutex

/-!
# The queue of asynchronous events

`sendEventAsynchronous` appends to a queue under the mutex, and `asyncEventsLoop` takes
events from its front under the mutex and passes them to `sendEventSynchronous` with the
mutex released.  One step is a piece of code between two operations on the mutex, by any
thread, so a run is one schedule.  The handlers of an event are code of the thread that
sends it: they may send more events of either kind, and throw.
-/

namespace Mbstf.Subscription

open Mbstf.SharedMutex

/-- A `std::shared_ptr<Event>`. -/
abbrev EventPtr := ℕ

/-- The thread of `asyncEventsLoop`, and the others. -/
inductive Thread where
  | asyncThread
  | other (id : ℕ)
  deriving DecidableEq

/-- Where `asyncEventsLoop` is: before the thread is started, at the outer condition, at
the inner conditions, in `wait_for`, behind `pop_front`, in `sendEventSynchronous`, or at
the end. -/
inductive LoopPoint where
  | notStarted
  | outer
  | whileEmpty
  | waiting
  | whileNotEmpty
  | popped (event : EventPtr)
  | dispatching
  | finished

/-- The points at which the loop holds the mutex. -/
def LoopPoint.Holds : LoopPoint → Prop
  | .whileEmpty => True
  | .whileNotEmpty => True
  | _ => False

/-- The event that the loop has taken and not passed on. -/
def LoopPoint.inHand : LoopPoint → List EventPtr
  | .popped event => [event]
  | _ => []

/-- Where a thread is in the functions that send: outside them, which includes the handlers
they call, between two subscribers of `sendEventSynchronous`, or in
`sendEventAsynchronous` before or behind `push_back`. -/
inductive SendPoint where
  | outside
  | betweenSubscribers
  | pushing (event : EventPtr)
  | pushed
  deriving DecidableEq

/-- What a thread is doing: how many `sendEventSynchronous` it is in, one within another,
and where. -/
structure Activity where
  depth : ℕ
  point : SendPoint
  deriving DecidableEq

/-- A service with its queue.  `enqueued` and `passed` log the events appended to the queue
and those the loop has passed to `sendEventSynchronous`. -/
structure AsyncService where
  asyncMutex : Mutex Thread
  asyncEventQueue : List EventPtr
  asyncCancel : Bool
  loop : LoopPoint
  activity : Thread → Activity
  enqueued : List EventPtr
  passed : List EventPtr

namespace AsyncService

def new : AsyncService where
  asyncMutex := .free
  asyncEventQueue := []
  asyncCancel := false
  loop := .notStarted
  activity := fun _ => ⟨0, .outside⟩
  enqueued := []
  passed := []

/-- The steps of a thread that sends, and those of the loop. -/
inductive Label where
  | lockToPush (thread : Thread) (event : EventPtr)
  | pushBack (thread : Thread)
  | unlockPushed (thread : Thread)
  | enterSend (thread : Thread)
  | callHandler (thread : Thread)
  | handlerReturns (thread : Thread)
  | handlerThrows (thread : Thread)
  | leaveSend (thread : Thread)
  | stopAsyncLoop
  | loopStep

/-- Whether a thread is in code of its own: the loop's thread is when it runs a handler. -/
def InHandler (service : AsyncService) (thread : Thread) : Prop :=
  (service.activity thread).point = .outside ∧
    (thread = .asyncThread → 0 < (service.activity .asyncThread).depth)

instance (service : AsyncService) (thread : Thread) : Decidable (service.InHandler thread) :=
  inferInstanceAs (Decidable (_ ∧ (_ → _)))

def setActivity (service : AsyncService) (thread : Thread) (depth : ℕ)
    (point : SendPoint) : AsyncService :=
  { service with activity := Function.update service.activity thread ⟨depth, point⟩ }

/-- `m_asyncMutex->lock()`, enabled when the mutex is to be had. -/
def lock (service : AsyncService) (thread : Thread) : Option AsyncService :=
  (service.asyncMutex.lock thread).map fun mutex => { service with asyncMutex := mutex }

/-- `m_asyncMutex->unlock()`. -/
def unlock (service : AsyncService) (thread : Thread) : AsyncService :=
  { service with asyncMutex := service.asyncMutex.unlock thread }

/-- `startAsyncLoop()`. -/
def startAsyncLoop (service : AsyncService) : AsyncService :=
  match service.loop with
  | .notStarted => if service.asyncCancel then service else { service with loop := .outer }
  | _ => service

/-- `stopAsyncLoop()` up to the `join`: there is nothing to stop when no loop was started. -/
def stopAsyncLoop (service : AsyncService) : AsyncService :=
  match service.loop with
  | .notStarted => service
  | _ => { service with asyncCancel := true }

/-- The next step of `asyncEventsLoop`. -/
def loopStep (service : AsyncService) : Option AsyncService :=
  match service.loop with
  | .notStarted => none
  | .outer =>
      if service.asyncCancel then some { service with loop := .finished }
      else ({ service with loop := .whileEmpty }).lock .asyncThread
  | .whileEmpty =>
      if !service.asyncCancel && service.asyncEventQueue.isEmpty then
        some ({ service with loop := .waiting }.unlock .asyncThread)
      else some { service with loop := .whileNotEmpty }
  | .waiting => ({ service with loop := .whileEmpty }).lock .asyncThread
  | .whileNotEmpty =>
      match service.asyncCancel, service.asyncEventQueue with
      | false, event :: rest =>
          some ({ service with
            loop := .popped event
            asyncEventQueue := rest }.unlock .asyncThread)
      | _, _ => some ({ service with loop := .outer }.unlock .asyncThread)
  | .popped event =>
      ({ service with
        loop := .dispatching
        passed := service.passed ++ [event] }.setActivity .asyncThread 1
          .betweenSubscribers).lock .asyncThread
  | .dispatching =>
      if service.activity .asyncThread = ⟨0, .outside⟩ then
        ({ service with loop := .whileNotEmpty }).lock .asyncThread
      else none
  | .finished => none

/-- One step.  A handler that throws ends the `sendEventSynchronous` that called it, whose
guard unlocks the mutex, and the exception goes on to the handler it is in, which may let
it pass, or to the loop, which swallows it. -/
def step (service : AsyncService) : Label → Option AsyncService
  | .lockToPush thread event =>
      if service.InHandler thread then
        (service.setActivity thread (service.activity thread).depth
          (.pushing event)).lock thread
      else none
  | .pushBack thread =>
      match (service.activity thread).point with
      | .pushing event =>
          some ({ service with
            asyncEventQueue := service.asyncEventQueue ++ [event]
            enqueued := service.enqueued ++ [event]
            }.setActivity thread (service.activity thread).depth .pushed).startAsyncLoop
      | _ => none
  | .unlockPushed thread =>
      if (service.activity thread).point = .pushed then
        some ((service.setActivity thread (service.activity thread).depth
          .outside).unlock thread)
      else none
  | .enterSend thread =>
      if service.InHandler thread then
        (service.setActivity thread ((service.activity thread).depth + 1)
          .betweenSubscribers).lock thread
      else none
  | .callHandler thread =>
      if (service.activity thread).point = .betweenSubscribers then
        some ((service.setActivity thread (service.activity thread).depth
          .outside).unlock thread)
      else none
  | .handlerReturns thread =>
      if service.InHandler thread ∧ 0 < (service.activity thread).depth then
        (service.setActivity thread (service.activity thread).depth
          .betweenSubscribers).lock thread
      else none
  | .handlerThrows thread =>
      if service.InHandler thread ∧ 0 < (service.activity thread).depth then
        some ((service.setActivity thread ((service.activity thread).depth - 1)
          .outside).unlock thread)
      else none
  | .leaveSend thread =>
      if (service.activity thread).point = .betweenSubscribers then
        some ((service.setActivity thread ((service.activity thread).depth - 1)
          .outside).unlock thread)
      else none
  | .stopAsyncLoop => some service.stopAsyncLoop
  | .loopStep => service.loopStep

/-! ## The queue is only touched under the mutex -/

/-- Whether a thread is at a point at which it holds the mutex. -/
def Inside (service : AsyncService) (thread : Thread) : Prop :=
  (service.activity thread).point ≠ .outside ∨ thread = .asyncThread ∧ service.loop.Holds

/-- The mutex is held by the thread that is inside; the loop's thread is in no send when it
is in the loop itself. -/
structure Exclusive (service : AsyncService) : Prop where
  guards : service.asyncMutex.Guards service.Inside
  idle : service.loop ≠ .dispatching → service.activity .asyncThread = ⟨0, .outside⟩

theorem exclusive_new : Exclusive new where
  guards := .free fun thread hinside => by
    rcases hinside with hpoint | ⟨-, hloop⟩
    · exact hpoint rfl
    · exact hloop
  idle := fun _ => rfl

theorem lock_eq_some {service next : AsyncService} {thread : Thread}
    (hlock : service.lock thread = some next) :
    ∃ mutex, service.asyncMutex.lock thread = some mutex ∧
      { service with asyncMutex := mutex } = next :=
  Option.map_eq_some_iff.mp hlock

variable {service next : AsyncService} {thread : Thread}

/-- The loop's thread is in a send only when it dispatches. -/
theorem Exclusive.dispatching (hservice : service.Exclusive)
    (hbusy : service.activity .asyncThread ≠ ⟨0, .outside⟩) : service.loop = .dispatching := by
  by_contra hloop
  exact hbusy (hservice.idle hloop)

/-- What a thread in a handler, or in a send, is not at: the inner points of the loop. -/
theorem Exclusive.not_holds (hservice : service.Exclusive)
    (hbusy : thread = .asyncThread → service.activity .asyncThread ≠ ⟨0, .outside⟩) :
    ¬ (thread = .asyncThread ∧ service.loop.Holds) := by
  rintro ⟨hthread, hholds⟩
  rw [hservice.dispatching (hbusy hthread)] at hholds
  exact hholds

theorem inside_setActivity (depth : ℕ) (point : SendPoint)
    (hnot : ¬ (thread = .asyncThread ∧ service.loop.Holds)) (other : Thread) :
    (service.setActivity thread depth point).Inside other ↔
      if other = thread then point ≠ .outside else service.Inside other := by
  by_cases hsame : other = thread
  · subst hsame
    rw [if_pos rfl]
    simp only [Inside, setActivity, Function.update_self]
    exact or_iff_left hnot
  · simp only [Inside, setActivity, Function.update_of_ne hsame, if_neg hsame]

theorem InHandler.busy (hhandler : service.InHandler thread) (hthread : thread = .asyncThread) :
    service.activity .asyncThread ≠ ⟨0, .outside⟩ := by
  intro hidle
  have hdepth := hhandler.2 hthread
  rw [hidle] at hdepth
  exact lt_irrefl 0 hdepth

theorem busy_of_point (hpoint : (service.activity thread).point ≠ .outside)
    (hthread : thread = .asyncThread) :
    service.activity .asyncThread ≠ ⟨0, .outside⟩ := by
  intro hidle
  rw [hthread, hidle] at hpoint
  exact hpoint rfl

/-- What an update of the activity of a thread leaves of `idle`. -/
theorem Exclusive.idle_setActivity (hservice : service.Exclusive)
    (hbusy : thread = .asyncThread → service.activity .asyncThread ≠ ⟨0, .outside⟩)
    (depth : ℕ) (point : SendPoint) (hloop : service.loop ≠ .dispatching) :
    (service.setActivity thread depth point).activity .asyncThread = ⟨0, .outside⟩ := by
  have hne : Thread.asyncThread ≠ thread := fun hthread =>
    hloop (hservice.dispatching (hbusy hthread.symm))
  exact (Function.update_of_ne hne _ _).trans (hservice.idle hloop)

/-- Stopping the loop at most sets the flag. -/
theorem stopAsyncLoop_eq (service : AsyncService) :
    service.stopAsyncLoop = service ∨
      service.stopAsyncLoop = { service with asyncCancel := true } := by
  unfold stopAsyncLoop
  split
  · exact .inl rfl
  · exact .inr rfl

theorem stopAsyncLoop_of_started (hstarted : service.loop ≠ .notStarted) :
    service.stopAsyncLoop = { service with asyncCancel := true } := by
  unfold stopAsyncLoop
  split
  case h_1 hloop => exact absurd hloop hstarted
  case h_2 => rfl

/-- A thread in a handler locks the mutex and is in a send then. -/
theorem Exclusive.enter (hservice : service.Exclusive) (hhandler : service.InHandler thread)
    {depth : ℕ} {point : SendPoint} (hpoint : point ≠ .outside)
    (hlock : (service.setActivity thread depth point).lock thread = some next) :
    next.Exclusive := by
  have hnot := hservice.not_holds hhandler.busy
  obtain ⟨mutex, hmutex, rfl⟩ := lock_eq_some hlock
  have houtside : ¬ service.Inside thread := by
    rintro (hin | hholds)
    · exact hin hhandler.1
    · exact hnot hholds
  refine ⟨hservice.guards.lock houtside hmutex fun other => ?_,
    hservice.idle_setActivity hhandler.busy depth point⟩
  refine (inside_setActivity depth point hnot other).trans ?_
  by_cases hsame : other = thread
  · simp [hsame, hpoint]
  · simp [hsame]

/-- A thread in a send unlocks the mutex and is outside then. -/
theorem Exclusive.leave (hservice : service.Exclusive)
    (hpoint : (service.activity thread).point ≠ .outside) (depth : ℕ) :
    ((service.setActivity thread depth .outside).unlock thread).Exclusive := by
  have hnot := hservice.not_holds (busy_of_point hpoint)
  refine ⟨hservice.guards.unlock (.inl hpoint) fun other => ?_,
    hservice.idle_setActivity (busy_of_point hpoint) depth .outside⟩
  refine (inside_setActivity depth .outside hnot other).trans ?_
  by_cases hsame : other = thread
  · simp [hsame]
  · simp [hsame]

/-- The unlock of a guard that an exception passes has no effect: the mutex is released. -/
theorem Exclusive.throws (hservice : service.Exclusive) (hhandler : service.InHandler thread)
    (depth : ℕ) :
    ((service.setActivity thread depth .outside).unlock thread).Exclusive := by
  have hnot := hservice.not_holds hhandler.busy
  have houtside : ¬ service.Inside thread := by
    rintro (hin | hholds)
    · exact hin hhandler.1
    · exact hnot hholds
  have hunlock : service.asyncMutex.unlock thread = service.asyncMutex :=
    hservice.guards.unlock_outside houtside
  have hguards : (service.asyncMutex.unlock thread).Guards service.Inside :=
    hunlock.symm ▸ hservice.guards
  refine ⟨hguards.congr fun other => ?_,
    hservice.idle_setActivity hhandler.busy depth .outside⟩
  refine (inside_setActivity depth .outside hnot other).trans ?_
  by_cases hsame : other = thread
  · simp [hsame, houtside]
  · simp [hsame]

/-- A thread in a send stays in it. -/
theorem Exclusive.stay (hservice : service.Exclusive)
    (hpoint : (service.activity thread).point ≠ .outside) (depth : ℕ) {point : SendPoint}
    (hafter : point ≠ .outside) : (service.setActivity thread depth point).Exclusive := by
  have hnot := hservice.not_holds (busy_of_point hpoint)
  refine ⟨hservice.guards.congr fun other => ?_,
    hservice.idle_setActivity (busy_of_point hpoint) depth point⟩
  refine (inside_setActivity depth point hnot other).trans ?_
  by_cases hsame : other = thread
  · simp [hsame, hafter, Inside, hpoint]
  · simp [hsame]

/-- The loop goes to another point, and holds the mutex there if it did. -/
theorem Exclusive.move (hservice : service.Exclusive) {loop : LoopPoint}
    (hidle : service.loop ≠ .dispatching) (hholds : loop.Holds ↔ service.loop.Holds) :
    Exclusive { service with loop := loop } := by
  refine ⟨hservice.guards.congr fun other => ?_, fun _ => hservice.idle hidle⟩
  simp only [Inside, hholds]

theorem Exclusive.startAsyncLoop (hservice : service.Exclusive) :
    service.startAsyncLoop.Exclusive := by
  unfold AsyncService.startAsyncLoop
  split
  case h_1 hloop =>
      split
      · exact hservice
      · apply hservice.move
        · simp [hloop]
        · simp [hloop, LoopPoint.Holds]
  case h_2 => exact hservice

/-- The loop's thread locks the mutex, at the end of a dispatch or in the loop. -/
theorem Exclusive.acquire (hservice : service.Exclusive)
    (hoff : service.activity .asyncThread = ⟨0, .outside⟩) {loop : LoopPoint}
    (hbefore : ¬ service.loop.Holds) (hafter : loop.Holds)
    (hlock : ({ service with loop := loop }).lock .asyncThread = some next) :
    next.Exclusive := by
  obtain ⟨mutex, hmutex, rfl⟩ := lock_eq_some hlock
  have houtside : ¬ service.Inside .asyncThread := by
    rintro (hpoint | ⟨-, hholds⟩)
    · exact hpoint (congrArg Activity.point hoff)
    · exact hbefore hholds
  refine ⟨hservice.guards.lock houtside hmutex fun other => ?_, fun _ => hoff⟩
  simp only [Inside, hafter, hbefore, and_true, and_false, or_false]

/-- The loop's thread unlocks the mutex. -/
theorem Exclusive.release (hservice : service.Exclusive) {loop : LoopPoint}
    (hbefore : service.loop.Holds) (hafter : ¬ loop.Holds) :
    ({ service with loop := loop }.unlock .asyncThread).Exclusive := by
  have hloop : service.loop ≠ .dispatching := by
    intro hdispatching
    rw [hdispatching] at hbefore
    exact hbefore
  have hoff := hservice.idle hloop
  refine ⟨hservice.guards.unlock (.inr ⟨rfl, hbefore⟩) fun other => ?_, fun _ => hoff⟩
  by_cases hsame : other = .asyncThread
  · simp [Inside, unlock, hsame, hoff, hafter]
  · simp [Inside, unlock, hsame]

/-- The loop's thread enters `sendEventSynchronous`. -/
theorem Exclusive.dispatch (hservice : service.Exclusive) {event : EventPtr}
    (hloop : service.loop = .popped event)
    (hstep : service.loopStep = some next) : next.Exclusive := by
  have hidle : service.loop ≠ .dispatching := by simp [hloop]
  have hoff := hservice.idle hidle
  rw [loopStep, hloop] at hstep
  obtain ⟨mutex, hmutex, rfl⟩ := lock_eq_some hstep
  have houtside : ¬ service.Inside .asyncThread := by
    simp [Inside, hoff, hloop, LoopPoint.Holds]
  refine ⟨hservice.guards.lock houtside hmutex fun other => ?_,
    fun hother => absurd rfl hother⟩
  by_cases hsame : other = .asyncThread
  · simp [Inside, setActivity, hsame]
  · simp [Inside, setActivity, hsame]

theorem Exclusive.loopStep (hservice : service.Exclusive)
    (hstep : service.loopStep = some next) : next.Exclusive := by
  cases hloop : service.loop with
  | notStarted => simp [AsyncService.loopStep, hloop] at hstep
  | outer =>
      simp only [AsyncService.loopStep, hloop] at hstep
      split at hstep
      · obtain rfl := Option.some.inj hstep
        exact hservice.move (by simp [hloop]) (by simp [hloop, LoopPoint.Holds])
      · exact hservice.acquire (hservice.idle (by simp [hloop]))
          (by simp [hloop, LoopPoint.Holds]) (by simp [LoopPoint.Holds]) hstep
  | whileEmpty =>
      simp only [AsyncService.loopStep, hloop] at hstep
      split at hstep
      · obtain rfl := Option.some.inj hstep
        exact hservice.release (by simp [hloop, LoopPoint.Holds]) (by simp [LoopPoint.Holds])
      · obtain rfl := Option.some.inj hstep
        exact hservice.move (by simp [hloop]) (by simp [hloop, LoopPoint.Holds])
  | waiting =>
      simp only [AsyncService.loopStep, hloop] at hstep
      exact hservice.acquire (hservice.idle (by simp [hloop]))
        (by simp [hloop, LoopPoint.Holds]) (by simp [LoopPoint.Holds]) hstep
  | whileNotEmpty =>
      simp only [AsyncService.loopStep, hloop] at hstep
      split at hstep
      case h_1 event rest _ _ =>
          obtain rfl := Option.some.inj hstep
          have hpopped : Exclusive
              ({ service with loop := .popped event }.unlock .asyncThread) :=
            hservice.release (by simp [hloop, LoopPoint.Holds]) (by simp [LoopPoint.Holds])
          exact ⟨hpopped.guards, hpopped.idle⟩
      case h_2 =>
          obtain rfl := Option.some.inj hstep
          exact hservice.release (by simp [hloop, LoopPoint.Holds]) (by simp [LoopPoint.Holds])
  | popped event => exact hservice.dispatch hloop hstep
  | dispatching =>
      simp only [AsyncService.loopStep, hloop] at hstep
      obtain ⟨hoff, hlock⟩ := Option.ite_none_right_eq_some.mp hstep
      exact hservice.acquire hoff (by simp [hloop, LoopPoint.Holds])
        (by simp [LoopPoint.Holds]) hlock
  | finished => simp [AsyncService.loopStep, hloop] at hstep

/-- Every step keeps the mutual exclusion. -/
theorem Exclusive.step (hservice : service.Exclusive) {label : Label}
    (hstep : service.step label = some next) : next.Exclusive := by
  cases label with
  | lockToPush thread event =>
      obtain ⟨hhandler, hlock⟩ := Option.ite_none_right_eq_some.mp hstep
      exact hservice.enter hhandler SendPoint.noConfusion hlock
  | pushBack thread =>
      simp only [AsyncService.step] at hstep
      split at hstep
      case h_1 event hpoint =>
          obtain rfl := Option.some.inj hstep
          have hqueued : Exclusive { service with
              asyncEventQueue := service.asyncEventQueue ++ [event]
              enqueued := service.enqueued ++ [event] } :=
            ⟨hservice.guards, hservice.idle⟩
          have hpushing : (service.activity thread).point ≠ .outside := by simp [hpoint]
          exact (hqueued.stay hpushing _ SendPoint.noConfusion).startAsyncLoop
      case h_2 => cases hstep
  | unlockPushed thread =>
      obtain ⟨hpoint, hnext⟩ := Option.ite_none_right_eq_some.mp hstep
      obtain rfl := Option.some.inj hnext
      exact hservice.leave (by simp [hpoint]) _
  | enterSend thread =>
      obtain ⟨hhandler, hlock⟩ := Option.ite_none_right_eq_some.mp hstep
      exact hservice.enter hhandler SendPoint.noConfusion hlock
  | callHandler thread =>
      obtain ⟨hpoint, hnext⟩ := Option.ite_none_right_eq_some.mp hstep
      obtain rfl := Option.some.inj hnext
      exact hservice.leave (by simp [hpoint]) _
  | handlerReturns thread =>
      obtain ⟨⟨hhandler, -⟩, hlock⟩ := Option.ite_none_right_eq_some.mp hstep
      exact hservice.enter hhandler SendPoint.noConfusion hlock
  | handlerThrows thread =>
      obtain ⟨⟨hhandler, -⟩, hnext⟩ := Option.ite_none_right_eq_some.mp hstep
      obtain rfl := Option.some.inj hnext
      exact hservice.throws hhandler _
  | leaveSend thread =>
      obtain ⟨hpoint, hnext⟩ := Option.ite_none_right_eq_some.mp hstep
      obtain rfl := Option.some.inj hnext
      exact hservice.leave (by simp [hpoint]) _
  | stopAsyncLoop =>
      obtain rfl := Option.some.inj hstep
      rcases service.stopAsyncLoop_eq with hsame | hflag
      · rw [hsame]
        exact hservice
      · rw [hflag]
        exact ⟨hservice.guards, hservice.idle⟩
  | loopStep => exact hservice.loopStep hstep

/-! ## Order -/

/-- What was appended to the queue was passed on, is in the loop's hand, or is still in the
queue, in this order. -/
def Accounted (service : AsyncService) : Prop :=
  service.enqueued = service.passed ++ service.loop.inHand ++ service.asyncEventQueue

theorem Accounted.startAsyncLoop (hservice : service.Accounted) :
    service.startAsyncLoop.Accounted := by
  unfold AsyncService.startAsyncLoop
  split
  case h_1 hloop =>
      split
      · exact hservice
      · simpa [Accounted, hloop, LoopPoint.inHand] using hservice
  case h_2 => exact hservice

/-- The loop takes the first event of the queue in hand, and passes on what it has. -/
theorem Accounted.loopStep (hservice : service.Accounted)
    (hstep : service.loopStep = some next) : next.Accounted := by
  have hmove : ∀ loop : LoopPoint, service.loop.inHand = [] → loop.inHand = [] →
      Accounted { service with loop := loop } := by
    intro loop hbefore hafter
    rw [Accounted, hbefore] at hservice
    rw [Accounted, hafter]
    exact hservice
  cases hloop : service.loop with
  | notStarted => simp [AsyncService.loopStep, hloop] at hstep
  | outer =>
      simp only [AsyncService.loopStep, hloop] at hstep
      split at hstep
      · obtain rfl := Option.some.inj hstep
        exact hmove _ (congrArg LoopPoint.inHand hloop) rfl
      · obtain ⟨mutex, -, rfl⟩ := lock_eq_some hstep
        exact hmove _ (congrArg LoopPoint.inHand hloop) rfl
  | whileEmpty =>
      simp only [AsyncService.loopStep, hloop] at hstep
      split at hstep
      · obtain rfl := Option.some.inj hstep
        exact hmove .waiting (congrArg LoopPoint.inHand hloop) rfl
      · obtain rfl := Option.some.inj hstep
        exact hmove _ (congrArg LoopPoint.inHand hloop) rfl
  | waiting =>
      simp only [AsyncService.loopStep, hloop] at hstep
      obtain ⟨mutex, -, rfl⟩ := lock_eq_some hstep
      exact hmove _ (congrArg LoopPoint.inHand hloop) rfl
  | whileNotEmpty =>
      simp only [AsyncService.loopStep, hloop] at hstep
      split at hstep
      case h_1 event rest _ hqueue =>
          obtain rfl := Option.some.inj hstep
          simpa [Accounted, unlock, hloop, hqueue, LoopPoint.inHand] using hservice
      case h_2 =>
          obtain rfl := Option.some.inj hstep
          exact hmove .outer (congrArg LoopPoint.inHand hloop) rfl
  | popped event =>
      simp only [AsyncService.loopStep, hloop] at hstep
      obtain ⟨mutex, -, rfl⟩ := lock_eq_some hstep
      simpa [Accounted, setActivity, hloop, LoopPoint.inHand] using hservice
  | dispatching =>
      simp only [AsyncService.loopStep, hloop] at hstep
      obtain ⟨-, hlock⟩ := Option.ite_none_right_eq_some.mp hstep
      obtain ⟨mutex, -, rfl⟩ := lock_eq_some hlock
      exact hmove _ (congrArg LoopPoint.inHand hloop) rfl
  | finished => simp [AsyncService.loopStep, hloop] at hstep

/-- Only `push_back` and the loop change the queue; every step keeps the account. -/
theorem Accounted.step (hservice : service.Accounted) {label : Label}
    (hstep : service.step label = some next) : next.Accounted := by
  cases label with
  | lockToPush thread event =>
      obtain ⟨-, hlock⟩ := Option.ite_none_right_eq_some.mp hstep
      obtain ⟨mutex, -, rfl⟩ := lock_eq_some hlock
      exact hservice
  | pushBack thread =>
      simp only [AsyncService.step] at hstep
      split at hstep
      case h_1 event hpoint =>
          obtain rfl := Option.some.inj hstep
          apply Accounted.startAsyncLoop
          have happended : service.enqueued ++ [event] =
              service.passed ++ service.loop.inHand ++ (service.asyncEventQueue ++ [event]) := by
            rw [hservice, List.append_assoc _ service.asyncEventQueue]
          exact happended
      case h_2 => cases hstep
  | unlockPushed thread =>
      obtain ⟨-, hnext⟩ := Option.ite_none_right_eq_some.mp hstep
      obtain rfl := Option.some.inj hnext
      exact hservice
  | enterSend thread =>
      obtain ⟨-, hlock⟩ := Option.ite_none_right_eq_some.mp hstep
      obtain ⟨mutex, -, rfl⟩ := lock_eq_some hlock
      exact hservice
  | callHandler thread =>
      obtain ⟨-, hnext⟩ := Option.ite_none_right_eq_some.mp hstep
      obtain rfl := Option.some.inj hnext
      exact hservice
  | handlerReturns thread =>
      obtain ⟨-, hlock⟩ := Option.ite_none_right_eq_some.mp hstep
      obtain ⟨mutex, -, rfl⟩ := lock_eq_some hlock
      exact hservice
  | handlerThrows thread =>
      obtain ⟨-, hnext⟩ := Option.ite_none_right_eq_some.mp hstep
      obtain rfl := Option.some.inj hnext
      exact hservice
  | leaveSend thread =>
      obtain ⟨-, hnext⟩ := Option.ite_none_right_eq_some.mp hstep
      obtain rfl := Option.some.inj hnext
      exact hservice
  | stopAsyncLoop =>
      obtain rfl := Option.some.inj hstep
      rcases service.stopAsyncLoop_eq with hsame | hflag
      · rw [hsame]
        exact hservice
      · rw [hflag]
        exact hservice
  | loopStep => exact hservice.loopStep hstep

/-- Events are passed on in the order in which they were appended, each once, and all of
them when the loop waits on an empty queue; the queue is touched by one thread at a time. -/
structure InOrder (service : AsyncService) : Prop where
  isPrefix : service.passed <+: service.enqueued
  drained : service.loop = .waiting → service.asyncEventQueue = [] →
    service.passed = service.enqueued
  oneAtATime : ∀ first second, service.Inside first → service.Inside second → first = second

theorem Accounted.inOrder (hservice : service.Accounted) (hexclusive : service.Exclusive) :
    service.InOrder where
  isPrefix := by
    rw [hservice, List.append_assoc]
    exact List.prefix_append _ _
  drained := by
    intro hloop hqueue
    rw [hservice, hloop, hqueue]
    simp [LoopPoint.inHand]
  oneAtATime := fun _ _ => hexclusive.guards.unique

/-- In every schedule of any number of sending threads, of the handlers and of the loop. -/
theorem run_inOrder {labels : List Label} {service : AsyncService}
    (hrun : Runs.run step new labels = some service) : service.InOrder := by
  have hkeeps : ∀ before label after, (before.Exclusive ∧ before.Accounted) →
      step before label = some after → after.Exclusive ∧ after.Accounted :=
    fun _ _ _ hbefore hstep => ⟨hbefore.1.step hstep, hbefore.2.step hstep⟩
  obtain ⟨hexclusive, haccounted⟩ := Runs.run_invariant hkeeps ⟨exclusive_new, rfl⟩ hrun
  exact haccounted.inOrder hexclusive

/-- The handler of the first event sends another one and throws. -/
def thrownRun : List Label :=
  [.lockToPush (.other 1) 5, .pushBack (.other 1), .unlockPushed (.other 1),
    .loopStep, .loopStep, .loopStep, .loopStep, .callHandler .asyncThread,
    .lockToPush .asyncThread 6, .pushBack .asyncThread, .unlockPushed .asyncThread,
    .handlerThrows .asyncThread, .loopStep, .loopStep, .loopStep]

theorem run_inOrder_thrown :
    ∃ service, Runs.run step new thrownRun = some service ∧ service.enqueued = [5, 6] ∧
      service.passed = [5, 6] ∧ service.InOrder := by
  have hrun : Runs.run step new thrownRun = some _ := rfl
  exact ⟨_, hrun, rfl, rfl, run_inOrder hrun⟩

end AsyncService

end Mbstf.Subscription
