import Mbstf.Core.RecursiveLock
import Mbstf.Objects.Packager
import Mbstf.Subscription.Delivery

/-!
# The regions that release a guarded mutex

Three functions hold a mutex in a `std::lock_guard` and release it by hand around
code they do not own: `sendEventSynchronous` around `processEvent`,
`asyncEventsLoop` around `sendEventSynchronous`, and `doObjectPackage` around the
store lookups and `Transmitter::send`.  Each is written here as the use it makes
of its mutex, for any behaviour of the code it calls: a handler may call back
into the service, send further events through it and catch what these throw.

The count of the calling thread is balanced exactly when no call in a released
window ends with an exception: a guard that is left from inside such a window
unlocks a mutex that the window had unlocked already.
-/

namespace Mbstf.Locking

open Mbstf.RecursiveLock
open Mbstf.Subscription
open Mbstf.Objects

/-- What C++ code throws: something derived from `std::exception`, or not. -/
inductive Exception where
  | standard
  | other
  deriving DecidableEq

/-- The exceptions that `catch (std::exception &)` takes. -/
def Exception.isStandard : Exception → Bool
  | .standard => true
  | .other => false

mutual
/-- What a called function does with the mutex of the service: it makes scoped
uses (`subscribe`, `unsubscribe`, `sendEventAsynchronous`), sends events through
the service itself, catching or not what such a send throws, and then returns or
throws. -/
inductive Called where
  | returns
  | throws (exception : Exception)
  | guards (rest : Called)
  | sends (calls : Calls) (caught : Exception → Bool) (rest : Called)
/-- The calls of `processEvent` that one send makes, and after each whether the
event is to be stopped. -/
inductive Calls where
  | nil
  | cons (behaviour : Called) (stops : Bool) (later : Calls)
end

/-- A member function that holds the mutex in a guard and calls nothing. -/
def scopedUse : Use Exception Unit := Use.withGuard (pure ())

mutual
def Called.run : Called → Use Exception Unit
  | .returns => pure ()
  | .throws exception => Use.throw exception
  | .guards rest => do
      scopedUse
      rest.run
  | .sends calls caught rest => do
      Use.catching caught calls.run.withGuard
      rest.run
/-- The loop over the subscribers of a send that a handler makes. -/
def Calls.run : Calls → Use Exception Unit
  | .nil => pure ()
  | .cons behaviour stops later => do
      behaviour.run.released
      if stops then pure () else later.run
end

/-! ## The three functions -/

/-- What one `processEvent` does: its use of the mutex, and its calls on the
event. -/
structure HandlerRun where
  behaviour : Called
  actions : List Event.Action

/-- What the handlers do in one send, by subscriber and event. -/
abbrev Handlers := SubscriberPtr → Event → HandlerRun

/-- The body of both loops of `sendEventSynchronous`: `processEvent` in a released
window, then the test of the stop flag. -/
def deliverTo (handlers : Handlers) : List SubscriberPtr → Event → Use Exception Event
  | [], event => pure event
  | subscriber :: subscribers, event => do
      (handlers subscriber event).behaviour.run.released
      let after := (handlers subscriber event).actions.foldl Event.act event
      if after.stopProcessingFlag then pure after
      else deliverTo handlers subscribers after

/-- `SubscriptionService::sendEventSynchronous(Event&)`. -/
def sendEventSynchronous (service : SubscriptionService) (handlers : Handlers)
    (event : Event) : Use Exception Bool :=
  Use.withGuard do
    let named ← deliverTo handlers
      (SetIndex.row service.namedEventSubscriptions event.eventName).toList event
    if named.stopProcessingFlag then pure false
    else do
      let all ← deliverTo handlers service.allEventSubscriptions.toList named
      pure (!all.preventDefaultFlag)

/-- One event taken from the queue: the tables it finds, and what is done with
it. -/
structure Dispatch where
  service : SubscriptionService
  handlers : Handlers
  event : Event

/-- `try { sendEventSynchronous(*event); } catch (std::exception &ex) { }`. -/
def Dispatch.run (dispatch : Dispatch) : Use Exception Unit :=
  Use.catching Exception.isStandard do
    let _ ← sendEventSynchronous dispatch.service dispatch.handlers dispatch.event
    pure ()

/-- The inner loop of `asyncEventsLoop`, for the events it finds. -/
def dispatchLoop : List Dispatch → Use Exception Unit
  | [] => pure ()
  | dispatch :: dispatches => do
      dispatch.run.released
      dispatchLoop dispatches

/-- The waiting loop: `wait_for` releases the mutex while it waits. -/
def waitLoop : ℕ → Use Exception Unit
  | 0 => pure ()
  | waits + 1 => do
      Use.released (pure ())
      waitLoop waits

/-- One turn of the outer loop of `asyncEventsLoop`: how often it waits, and the
events it then dispatches. -/
structure Round where
  waits : ℕ
  dispatches : List Dispatch

def Round.run (round : Round) : Use Exception Unit :=
  Use.withGuard do
    waitLoop round.waits
    dispatchLoop round.dispatches

/-- `SubscriptionService::asyncEventsLoop()`, for the turns it makes until it is
cancelled. -/
def asyncEventsLoop : List Round → Use Exception Unit
  | [] => pure ()
  | round :: rounds => do
      round.run
      asyncEventsLoop rounds

/-- How the calls made by one `doObjectPackage` end; none of them has access to
the mutex. -/
structure PackageRun where
  makeTransmitter : Except Exception Unit
  getObjectData : Except Exception Unit
  getMetadata : Except Exception Unit
  secondsSinceEpoch : Except Exception Unit
  send : Except Exception Unit
  runOne : Except Exception Unit

/-- The code between `unlock` and `lock` in `doObjectPackage`. -/
def PackageRun.window (run : PackageRun) : Use Exception Unit := do
  Use.ends run.getObjectData
  Use.ends run.getMetadata
  Use.ends run.secondsSinceEpoch
  Use.ends run.send

/-- `if (!m_transmitter) m_transmitter = new LibFlute::Transmitter(…)`. -/
def makeTransmitter (packager : Packager) (run : PackageRun) : Use Exception Unit :=
  if packager.hasTransmitter then pure () else Use.ends run.makeTransmitter

/-- `ObjectListPackager::doObjectPackage()`. -/
def doObjectPackage (packager : Packager) (run : PackageRun) : Use Exception Unit :=
  Use.catching Exception.isStandard do
    if packager.destIpAddr.isSome then do
      makeTransmitter packager run
      Use.withGuard do
        if packager.packageItems ≠ [] ∧ packager.queued = false then run.window.released
        else pure ()
      Use.ends run.runOne
    else pure ()

/-! ## No call in a released window throws -/

/-- The function ends by returning, when the sends it makes return. -/
def Called.Returns : Called → Prop
  | .returns => True
  | .throws _ => False
  | .guards rest => rest.Returns
  | .sends _ _ rest => rest.Returns

mutual
/-- No window is left by an exception during the call. -/
def Called.Clean : Called → Prop
  | .returns => True
  | .throws _ => True
  | .guards rest => rest.Clean
  | .sends calls _ rest => calls.Clean ∧ rest.Clean
/-- Every call made returns, and is clean itself. -/
def Calls.Clean : Calls → Prop
  | .nil => True
  | .cons behaviour stops later =>
      (behaviour.Clean ∧ behaviour.Returns) ∧ (stops = false → later.Clean)
end

/-- Every `processEvent` that one loop of a send makes returns, and is clean. -/
def LoopReturns (handlers : Handlers) : List SubscriberPtr → Event → Prop
  | [], _ => True
  | subscriber :: subscribers, event =>
      let run := handlers subscriber event
      let after := run.actions.foldl Event.act event
      (run.behaviour.Clean ∧ run.behaviour.Returns) ∧
        (after.stopProcessingFlag = false → LoopReturns handlers subscribers after)

/-- The event as a loop leaves it, when the calls return. -/
def afterLoop (handlers : Handlers) : List SubscriberPtr → Event → Event
  | [], event => event
  | subscriber :: subscribers, event =>
      let after := (handlers subscriber event).actions.foldl Event.act event
      if after.stopProcessingFlag then after else afterLoop handlers subscribers after

/-- Every `processEvent` that a send makes returns, and is clean. -/
def SendReturns (service : SubscriptionService) (handlers : Handlers) (event : Event) : Prop :=
  let named := (SetIndex.row service.namedEventSubscriptions event.eventName).toList
  LoopReturns handlers named event ∧
    ((afterLoop handlers named event).stopProcessingFlag = false →
      LoopReturns handlers service.allEventSubscriptions.toList
        (afterLoop handlers named event))

/-- The round enters its window. -/
def Opens (packager : Packager) (run : PackageRun) : Prop :=
  packager.destIpAddr.isSome ∧ (packager.hasTransmitter ∨ run.makeTransmitter = .ok ()) ∧
    packager.packageItems ≠ [] ∧ packager.queued = false

/-- The calls in the window return. -/
def PackageRun.Returns (run : PackageRun) : Prop :=
  run.getObjectData = .ok () ∧ run.getMetadata = .ok () ∧ run.secondsSinceEpoch = .ok () ∧
    run.send = .ok ()

/-! ## The called code -/

theorem scopedUse_declines : scopedUse.Declines 0 :=
  (Use.declines_of_no_ops 1 rfl).withGuard

mutual
theorem Called.declines (called : Called) : called.run.Declines 0 := by
  cases called with
  | returns => exact Use.declines_of_no_ops 0 rfl
  | throws exception => exact Use.declines_of_no_ops 0 rfl
  | guards rest => exact scopedUse_declines.bind fun _ => rest.declines
  | sends calls caught rest =>
      exact calls.declines.withGuard.catching.bind fun _ => rest.declines
theorem Calls.declines (calls : Calls) : calls.run.Declines 1 := by
  cases calls with
  | nil => exact Use.declines_of_no_ops 1 rfl
  | cons behaviour stops later =>
      apply behaviour.declines.released.bind
      intro _
      cases stops with
      | true => exact Use.declines_of_no_ops 1 rfl
      | false => exact later.declines
end

theorem scopedUse_settles : Use.Settles 0 scopedUse True () :=
  (Use.settles_pure ()).withGuard

/-- What follows a part that returns decides how the whole ends. -/
theorem exit_bind_of_ok {first rest : Use Exception Unit} (hfirst : first.exit = .ok ()) :
    (first >>= fun _ => rest).exit = rest.exit := by
  rw [Use.bind_of_ok hfirst]

mutual
/-- A called function loses no lock exactly when it is clean, and then it ends as
its last part does. -/
theorem Called.run_spec (called : Called) :
    (net called.run.ops = 0 ↔ called.Clean) ∧
      (called.Clean → (called.run.exit = .ok () ↔ called.Returns)) := by
  cases called with
  | returns => exact ⟨iff_of_true rfl trivial, fun _ => iff_of_true rfl trivial⟩
  | throws exception =>
      refine ⟨iff_of_true rfl trivial, fun _ => iff_of_false ?_ id⟩
      intro hexit
      cases hexit
  | guards rest =>
      obtain ⟨hnet, hreturns⟩ := rest.run_spec
      have hbind := Use.net_bind_eq_zero_iff scopedUse_declines fun _ => rest.declines
      constructor
      · rw [Called.run, hbind, hnet, scopedUse_settles.net_iff, Called.Clean]
        exact ⟨fun hboth => hboth.2 () rfl, fun hrest => ⟨trivial, fun _ _ => hrest⟩⟩
      · intro hclean
        rw [Called.run, exit_bind_of_ok rfl]
        exact hreturns hclean
  | sends calls caught rest =>
      obtain ⟨hnet, hreturns⟩ := rest.run_spec
      have hsend : Use.Settles 0 (Use.catching caught calls.run.withGuard) calls.Clean () :=
        calls.settles.withGuard.catching
      have hbind := Use.net_bind_eq_zero_iff hsend.declines fun _ => rest.declines
      constructor
      · rw [Called.run, hbind, hnet, hsend.net_iff, Called.Clean]
        constructor
        · exact fun ⟨hcalls, hrest⟩ => ⟨hcalls, hrest () (hsend.exit_eq hcalls)⟩
        · exact fun ⟨hcalls, hrest⟩ => ⟨hcalls, fun _ _ => hrest⟩
      · rintro ⟨hcalls, hrest⟩
        rw [Called.run, exit_bind_of_ok (hsend.exit_eq hcalls)]
        exact hreturns hrest
/-- The calls of a send lose no lock exactly when all of them return. -/
theorem Calls.settles (calls : Calls) : Use.Settles 1 calls.run calls.Clean () := by
  cases calls with
  | nil => exact Use.settles_pure ()
  | cons behaviour stops later =>
      obtain ⟨hnet, hreturns⟩ := behaviour.run_spec
      have hcall := Use.settles_released behaviour.declines hnet hreturns
      cases stops with
      | true =>
          have hrest : Use.Settles 1 (pure () : Use Exception Unit) True () :=
            Use.settles_pure ()
          refine (hcall.bind (fun _ => hrest.declines) hrest).congr ?_
          simp [Calls.Clean]
      | false =>
          have hrest := later.settles
          refine (hcall.bind (fun _ => hrest.declines) hrest).congr ?_
          simp [Calls.Clean]
end

/-! ## The regions -/

theorem deliverTo_settles (handlers : Handlers) (subscribers : List SubscriberPtr)
    (event : Event) :
    Use.Settles 1 (deliverTo handlers subscribers event)
      (LoopReturns handlers subscribers event) (afterLoop handlers subscribers event) := by
  induction subscribers generalizing event with
  | nil => exact Use.settles_pure event
  | cons subscriber subscribers ih =>
      obtain ⟨hnet, hreturns⟩ := (handlers subscriber event).behaviour.run_spec
      have hcall := Use.settles_released (Called.declines _) hnet hreturns
      simp only [deliverTo, LoopReturns, afterLoop]
      cases hstop : ((handlers subscriber event).actions.foldl Event.act
          event).stopProcessingFlag with
      | true =>
          have hrest : Use.Settles 1 (pure ((handlers subscriber event).actions.foldl
              Event.act event) : Use Exception Event) True _ := Use.settles_pure _
          refine (hcall.bind (fun _ => hrest.declines) hrest).congr ?_
          simp
      | false =>
          have hrest := ih ((handlers subscriber event).actions.foldl Event.act event)
          refine (hcall.bind (fun _ => hrest.declines) hrest).congr ?_
          simp

theorem sendEventSynchronous_settles (service : SubscriptionService) (handlers : Handlers)
    (event : Event) :
    ∃ answer, Use.Settles 0 (sendEventSynchronous service handlers event)
      (SendReturns service handlers event) answer := by
  have hnamed := deliverTo_settles handlers
    (SetIndex.row service.namedEventSubscriptions event.eventName).toList event
  have hall : ∀ named, Use.Settles 1
      (do
        let all ← deliverTo handlers service.allEventSubscriptions.toList named
        pure (!all.preventDefaultFlag))
      (LoopReturns handlers service.allEventSubscriptions.toList named ∧ True)
      (!(afterLoop handlers service.allEventSubscriptions.toList named).preventDefaultFlag) := by
    intro named
    exact (deliverTo_settles handlers _ named).bind
      (fun _ => Use.declines_of_no_ops 1 rfl) (Use.settles_pure _)
  -- The second loop is skipped when the first one stopped the event.
  have hrest : ∀ named : Event, ∃ answer, Use.Settles 1
      (if named.stopProcessingFlag then pure false
        else do
          let all ← deliverTo handlers service.allEventSubscriptions.toList named
          pure (!all.preventDefaultFlag))
      (named.stopProcessingFlag = false →
        LoopReturns handlers service.allEventSubscriptions.toList named) answer := by
    intro named
    cases hstop : named.stopProcessingFlag with
    | true =>
        refine ⟨false, (Use.settles_pure false).congr ?_⟩
        simp
    | false =>
        refine ⟨_, (hall named).congr ?_⟩
        simp
  obtain ⟨answer, hanswer⟩ := hrest (afterLoop handlers _ event)
  refine ⟨answer, (hnamed.bind (fun named => ?_) hanswer).withGuard⟩
  obtain ⟨_, hother⟩ := hrest named
  exact hother.declines

theorem dispatch_settles (dispatch : Dispatch) :
    Use.Settles 0 dispatch.run
      (SendReturns dispatch.service dispatch.handlers dispatch.event) () := by
  obtain ⟨answer, hsend⟩ :=
    sendEventSynchronous_settles dispatch.service dispatch.handlers dispatch.event
  have hrest : Use.Settles 0 (pure () : Use Exception Unit) True () := Use.settles_pure ()
  refine ((hsend.bind (fun _ => hrest.declines) hrest).congr ?_).catching
  simp

theorem dispatchLoop_settles (dispatches : List Dispatch) :
    Use.Settles 1 (dispatchLoop dispatches)
      (∀ dispatch ∈ dispatches,
        SendReturns dispatch.service dispatch.handlers dispatch.event) () := by
  induction dispatches with
  | nil => exact (Use.settles_pure ()).congr (by simp)
  | cons dispatch dispatches ih =>
      refine ((dispatch_settles dispatch).released.bind (fun _ => ih.declines) ih).congr ?_
      simp

theorem waitLoop_settles (waits : ℕ) : Use.Settles 1 (waitLoop waits) True () := by
  induction waits with
  | zero => exact Use.settles_pure ()
  | succ waits ih =>
      have hwait : Use.Settles 0 (pure () : Use Exception Unit) True () := Use.settles_pure ()
      refine (hwait.released.bind (fun _ => ih.declines) ih).congr ?_
      simp

theorem round_settles (round : Round) :
    Use.Settles 0 round.run
      (∀ dispatch ∈ round.dispatches,
        SendReturns dispatch.service dispatch.handlers dispatch.event) () := by
  have hdispatches := dispatchLoop_settles round.dispatches
  refine (((waitLoop_settles round.waits).bind (fun _ => hdispatches.declines)
    hdispatches).congr ?_).withGuard
  simp

theorem asyncEventsLoop_settles (rounds : List Round) :
    Use.Settles 0 (asyncEventsLoop rounds)
      (∀ round ∈ rounds, ∀ dispatch ∈ round.dispatches,
        SendReturns dispatch.service dispatch.handlers dispatch.event) () := by
  induction rounds with
  | nil => exact (Use.settles_pure ()).congr (by simp)
  | cons round rounds ih =>
      refine ((round_settles round).bind (fun _ => ih.declines) ih).congr ?_
      simp

theorem window_exit (run : PackageRun) : run.window.exit = .ok () ↔ run.Returns := by
  rw [PackageRun.window, PackageRun.Returns]
  cases hdata : run.getObjectData with
  | error exception => simp [Use.ends, Use.bind_of_error]
  | ok value =>
      rw [exit_bind_of_ok rfl]
      cases hmetadata : run.getMetadata with
      | error exception => simp [Use.ends, Use.bind_of_error]
      | ok value =>
          rw [exit_bind_of_ok rfl]
          cases hclock : run.secondsSinceEpoch with
          | error exception => simp [Use.ends, Use.bind_of_error]
          | ok value =>
              rw [exit_bind_of_ok rfl]
              simp [Use.ends]

theorem window_ops (run : PackageRun) : run.window.ops = [] := by
  rw [PackageRun.window]
  cases hdata : run.getObjectData with
  | error exception => simp [Use.ends, Use.bind_of_error]
  | ok value =>
      cases hmetadata : run.getMetadata with
      | error exception => simp [Use.ends, Use.bind_of_error, Use.bind_of_ok]
      | ok value =>
          cases hclock : run.secondsSinceEpoch with
          | error exception => simp [Use.ends, Use.bind_of_error, Use.bind_of_ok]
          | ok value => simp [Use.ends, Use.bind_of_ok]

theorem window_settles (run : PackageRun) :
    Use.Settles 1 run.window.released run.Returns () := by
  have hnet : net run.window.ops = 0 ↔ True := iff_of_true (by rw [window_ops, net_nil]) trivial
  refine (Use.settles_released (Use.declines_of_no_ops 0 (window_ops run)) hnet
    fun _ => window_exit run).congr ?_
  simp

/-- The guarded part of `doObjectPackage`. -/
theorem guarded_settles (packager : Packager) (run : PackageRun) :
    Use.Settles 0
      (Use.withGuard
        (if packager.packageItems ≠ [] ∧ packager.queued = false then run.window.released
          else pure ()))
      (packager.packageItems ≠ [] ∧ packager.queued = false → run.Returns) () := by
  apply Use.Settles.withGuard
  by_cases henter : packager.packageItems ≠ [] ∧ packager.queued = false
  · rw [if_pos henter]
    exact (window_settles run).congr (by simp [henter])
  · rw [if_neg henter]
    exact (Use.settles_pure ()).congr (by simp [henter])

theorem ends_declines (exit : Except Exception Unit) : (Use.ends exit).Declines 0 :=
  Use.declines_of_no_ops 0 rfl

theorem doObjectPackage_spec (packager : Packager) (run : PackageRun) :
    (doObjectPackage packager run).Declines 0 ∧
      (net (doObjectPackage packager run).ops = 0 ↔ (Opens packager run → run.Returns)) := by
  have hguarded := guarded_settles packager run
  -- A transmitter that cannot be made ends the round before the mutex is taken.
  have hmake : (makeTransmitter packager run).ops = [] := by
    rw [makeTransmitter]
    split
    · rfl
    · rfl
  have hmade : (makeTransmitter packager run).exit = .ok () ↔
      packager.hasTransmitter ∨ run.makeTransmitter = .ok () := by
    rw [makeTransmitter]
    cases packager.hasTransmitter with
    | true => simp
    | false => simp [Use.ends]
  have hmakeDeclines := Use.declines_of_no_ops 0 hmake
  have htail : ∀ _ : Unit, Use.Declines 0
      ((Use.withGuard
        (if packager.packageItems ≠ [] ∧ packager.queued = false then run.window.released
          else pure ())) >>= fun _ => Use.ends run.runOne) :=
    fun _ => hguarded.declines.bind fun _ => ends_declines run.runOne
  have htailNet := Use.net_bind_eq_zero_iff hguarded.declines
    fun _ => ends_declines run.runOne
  have hbodyNet := Use.net_bind_eq_zero_iff hmakeDeclines htail
  have hrunOne : net (Use.ends run.runOne).ops = 0 := rfl
  rw [doObjectPackage, Use.catching_ops]
  by_cases haddress : packager.destIpAddr.isSome
  · rw [if_pos haddress]
    refine ⟨(hmakeDeclines.bind htail).catching, ?_⟩
    rw [hbodyNet, hmake, htailNet, hguarded.net_iff, hrunOne]
    simp only [net_nil, true_and, implies_true, and_true, forall_const, hmade, Opens,
      haddress]
    exact and_imp.symm
  · rw [if_neg haddress]
    refine ⟨(Use.declines_of_no_ops 0 rfl : (pure () : Use Exception Unit).Declines 0).catching, ?_⟩
    simp [Opens, haddress]

/-- From every count the thread may have on entry, the count is balanced in each
of the three regions exactly when every call made in a released window, however
deep in further sends, returns instead of throwing. -/
theorem balanced_iff_windows_return (entry : ℕ) :
    (∀ service handlers event,
        (sendEventSynchronous service handlers event).Balanced entry ↔
          SendReturns service handlers event) ∧
      (∀ rounds, (asyncEventsLoop rounds).Balanced entry ↔
        ∀ round ∈ rounds, ∀ dispatch ∈ round.dispatches,
          SendReturns dispatch.service dispatch.handlers dispatch.event) ∧
      (∀ packager run, (doObjectPackage packager run).Balanced entry ↔
        (Opens packager run → run.Returns)) := by
  refine ⟨fun service handlers event => ?_, fun rounds => ?_, fun packager run => ?_⟩
  · obtain ⟨answer, hsend⟩ := sendEventSynchronous_settles service handlers event
    exact hsend.balanced_iff entry
  · exact (asyncEventsLoop_settles rounds).balanced_iff entry
  · obtain ⟨hdeclines, hnet⟩ := doObjectPackage_spec packager run
    exact (Use.balanced_iff hdeclines entry).trans hnet

/-- The handler of the only subscriber throws: the guard of the send unlocks a
mutex that is free, and so does the one of a packaging round whose lookup throws. -/
theorem throwing_handler_unbalanced :
    (sendEventSynchronous (SubscriptionService.new.subscribe 1).1
        (fun _ _ => ⟨.throws .standard, []⟩) (.new "ObjectSendCompleted")).ops =
      [.lock, .unlock, .unlock] ∧
    ¬ (sendEventSynchronous (SubscriptionService.new.subscribe 1).1
        (fun _ _ => ⟨.throws .standard, []⟩) (.new "ObjectSendCompleted")).Balanced 0 ∧
    ¬ (asyncEventsLoop [⟨0, [⟨(SubscriptionService.new.subscribe 1).1,
        fun _ _ => ⟨.throws .standard, []⟩, .new "ObjectSendCompleted"⟩]⟩]).Balanced 0 ∧
    ¬ (doObjectPackage (.new (some "239.0.0.1") [⟨"1", none⟩])
        ⟨.ok (), .error .standard, .ok (), .ok (), .ok (), .ok ()⟩).Balanced 0 := by
  refine ⟨by decide, ?_, ?_, ?_⟩
  · intro hbalanced
    exact absurd hbalanced.restored (by decide)
  · intro hbalanced
    exact absurd hbalanced.restored (by decide)
  · intro hbalanced
    exact absurd hbalanced.restored (by decide)

end Mbstf.Locking
