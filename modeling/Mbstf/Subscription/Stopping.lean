import Mbstf.Subscription.AsyncLoop

/-!
# Stopping the queue of asynchronous events

`stopAsyncLoop` sets a flag, without the mutex, and joins the thread of the loop.  From the
flag on the loop takes no event any more: the one that it has in hand is passed on, and the
others stay in the queue.  It comes to its end in at most four steps of its own, and nothing
that a sending thread or a handler does keeps it from that for good.
-/

namespace Mbstf.Subscription

open Mbstf.SharedMutex

/-- How many steps the loop has left when it is cancelled. -/
def LoopPoint.stepsLeft : LoopPoint → ℕ
  | .notStarted => 0
  | .outer => 1
  | .whileEmpty => 3
  | .waiting => 4
  | .whileNotEmpty => 2
  | .popped _ => 4
  | .dispatching => 3
  | .finished => 0

theorem LoopPoint.stepsLeft_le (loop : LoopPoint) : loop.stepsLeft ≤ 4 := by
  cases loop <;> simp [LoopPoint.stepsLeft]

namespace AsyncService

def Label.isLoopStep : Label → Bool
  | .loopStep => true
  | _ => false

variable {service next : AsyncService} {thread : Thread}

/-! ## What the loop still does -/

/-- What a step of a cancelled service leaves as it is, and what the loop does in it. -/
structure Stopping (service : AsyncService) (label : Label) (next : AsyncService) : Prop where
  cancelled : next.asyncCancel = true
  taken : next.passed ++ next.loop.inHand = service.passed ++ service.loop.inHand
  advanced : next.loop.stepsLeft + (if label.isLoopStep then 1 else 0) = service.loop.stepsLeft
  started : service.loop ≠ .notStarted → next.loop ≠ .notStarted

/-- A step of a sending thread. -/
theorem Stopping.send {label : Label} (hcancel : next.asyncCancel = true)
    (hlabel : label.isLoopStep = false) (hpassed : next.passed = service.passed)
    (hloop : next.loop = service.loop) : Stopping service label next where
  cancelled := hcancel
  taken := by rw [hpassed, hloop]
  advanced := by simp [hlabel, hloop]
  started := by
    rw [hloop]
    exact id

theorem stopping_loopStep (hcancel : service.asyncCancel = true)
    (hstep : service.loopStep = some next) : Stopping service .loopStep next := by
  have hmove : ∀ after, after.asyncCancel = true → after.passed = service.passed →
      service.loop.inHand = [] → after.loop.inHand = [] → after.loop ≠ .notStarted →
        after.loop.stepsLeft + 1 = service.loop.stepsLeft → Stopping service .loopStep after :=
    fun after hafter hpassed hbefore hnone hstarted hsteps =>
      ⟨hafter, by rw [hpassed, hbefore, hnone], hsteps, fun _ => hstarted⟩
  cases hloop : service.loop with
  | notStarted => simp [loopStep, hloop] at hstep
  | outer =>
      simp only [loopStep, hloop, if_pos hcancel] at hstep
      obtain rfl := Option.some.inj hstep
      exact hmove _ hcancel rfl (by simp [hloop, LoopPoint.inHand]) rfl (by simp)
        (by simp [hloop, LoopPoint.stepsLeft])
  | whileEmpty =>
      simp only [loopStep, hloop] at hstep
      rw [if_neg (by simp [hcancel])] at hstep
      obtain rfl := Option.some.inj hstep
      exact hmove _ hcancel rfl (by simp [hloop, LoopPoint.inHand]) rfl (by simp)
        (by simp [hloop, LoopPoint.stepsLeft])
  | waiting =>
      simp only [loopStep, hloop] at hstep
      obtain ⟨mutex, -, rfl⟩ := lock_eq_some hstep
      exact hmove _ hcancel rfl (by simp [hloop, LoopPoint.inHand]) rfl (by simp)
        (by simp [hloop, LoopPoint.stepsLeft])
  | whileNotEmpty =>
      simp only [loopStep, hloop] at hstep
      split at hstep
      case h_1 hgoes _ => exact absurd (hcancel.symm.trans hgoes) (by decide)
      case h_2 =>
          obtain rfl := Option.some.inj hstep
          exact hmove _ hcancel rfl (by simp [hloop, LoopPoint.inHand]) rfl (by simp [unlock])
            (by simp [hloop, LoopPoint.stepsLeft, unlock])
  | popped event =>
      -- The event in hand is passed on.
      simp only [loopStep, hloop] at hstep
      obtain ⟨mutex, -, rfl⟩ := lock_eq_some hstep
      exact ⟨hcancel, by simp [hloop, LoopPoint.inHand, setActivity],
        by simp [hloop, LoopPoint.stepsLeft, setActivity, Label.isLoopStep],
        fun _ => by simp [setActivity]⟩
  | dispatching =>
      simp only [loopStep, hloop] at hstep
      obtain ⟨-, hlock⟩ := Option.ite_none_right_eq_some.mp hstep
      obtain ⟨mutex, -, rfl⟩ := lock_eq_some hlock
      exact hmove _ hcancel rfl (by simp [hloop, LoopPoint.inHand]) rfl (by simp)
        (by simp [hloop, LoopPoint.stepsLeft])
  | finished => simp [loopStep, hloop] at hstep

/-- A cancelled service starts no loop. -/
theorem startAsyncLoop_of_cancel (hcancel : service.asyncCancel = true) :
    service.startAsyncLoop = service := by
  unfold startAsyncLoop
  split
  · rw [if_pos hcancel]
  · rfl

theorem stopping_step (hcancel : service.asyncCancel = true) {label : Label}
    (hstep : service.step label = some next) : Stopping service label next := by
  cases label with
  | lockToPush thread event =>
      obtain ⟨-, hlock⟩ := Option.ite_none_right_eq_some.mp hstep
      obtain ⟨mutex, -, rfl⟩ := lock_eq_some hlock
      exact .send hcancel rfl rfl rfl
  | pushBack thread =>
      simp only [step] at hstep
      split at hstep
      case h_1 event hpoint =>
          rw [startAsyncLoop_of_cancel (by exact hcancel)] at hstep
          obtain rfl := Option.some.inj hstep
          exact .send hcancel rfl rfl rfl
      case h_2 => cases hstep
  | unlockPushed thread =>
      obtain ⟨-, hnext⟩ := Option.ite_none_right_eq_some.mp hstep
      obtain rfl := Option.some.inj hnext
      exact .send hcancel rfl rfl rfl
  | enterSend thread =>
      obtain ⟨-, hlock⟩ := Option.ite_none_right_eq_some.mp hstep
      obtain ⟨mutex, -, rfl⟩ := lock_eq_some hlock
      exact .send hcancel rfl rfl rfl
  | callHandler thread =>
      obtain ⟨-, hnext⟩ := Option.ite_none_right_eq_some.mp hstep
      obtain rfl := Option.some.inj hnext
      exact .send hcancel rfl rfl rfl
  | handlerReturns thread =>
      obtain ⟨-, hlock⟩ := Option.ite_none_right_eq_some.mp hstep
      obtain ⟨mutex, -, rfl⟩ := lock_eq_some hlock
      exact .send hcancel rfl rfl rfl
  | handlerThrows thread =>
      obtain ⟨-, hnext⟩ := Option.ite_none_right_eq_some.mp hstep
      obtain rfl := Option.some.inj hnext
      exact .send hcancel rfl rfl rfl
  | leaveSend thread =>
      obtain ⟨-, hnext⟩ := Option.ite_none_right_eq_some.mp hstep
      obtain rfl := Option.some.inj hnext
      exact .send hcancel rfl rfl rfl
  | stopAsyncLoop =>
      obtain rfl := Option.some.inj hstep
      rcases service.stopAsyncLoop_eq with hsame | hflag
      · rw [hsame]
        exact .send hcancel rfl rfl rfl
      · rw [hflag]
        exact .send rfl rfl rfl rfl
  | loopStep => exact stopping_loopStep hcancel hstep

/-- What any threads do after the flag is set. -/
theorem stopping_run {labels : List Label} (hcancel : service.asyncCancel = true)
    (hrun : Runs.run step service labels = some next) :
    next.asyncCancel = true ∧
      next.passed ++ next.loop.inHand = service.passed ++ service.loop.inHand ∧
      next.loop.stepsLeft + labels.countP Label.isLoopStep = service.loop.stepsLeft ∧
      (service.loop ≠ .notStarted → next.loop ≠ .notStarted) := by
  induction labels generalizing service with
  | nil =>
      obtain rfl : service = next := by simpa using hrun
      exact ⟨hcancel, rfl, rfl, id⟩
  | cons label labels ih =>
      obtain ⟨middle, hstep, hrest⟩ := Runs.run_cons_eq_some.mp hrun
      obtain ⟨hmiddle, htaken, hadvanced, hstarted⟩ := stopping_step hcancel hstep
      obtain ⟨hnext, hlater, hsteps, hstill⟩ := ih hmiddle hrest
      refine ⟨hnext, hlater.trans htaken, ?_, fun hbefore => hstill (hstarted hbefore)⟩
      rw [List.countP_cons, ← hadvanced, ← hsteps, add_assoc]

/-! ## The loop can always go on -/

/-- No thread is in a function that sends. -/
def AllOutside (service : AsyncService) : Prop :=
  ∀ thread, (service.activity thread).point = .outside

/-- A cancelled service that a run can lead to. -/
structure Cancelled (service : AsyncService) : Prop where
  exclusive : service.Exclusive
  cancelled : service.asyncCancel = true

theorem Cancelled.run (hcancelled : service.Cancelled) {labels : List Label}
    (hrun : Runs.run step service labels = some next) : next.Cancelled where
  exclusive := Runs.run_invariant (fun _ _ _ hbefore hstep => hbefore.step hstep)
    hcancelled.exclusive hrun
  cancelled := (stopping_run hcancelled.cancelled hrun).1

/-- The mutex is free when nobody is inside. -/
theorem Exclusive.free (hservice : service.Exclusive) (houtside : service.AllOutside)
    (hloop : ¬ service.loop.Holds) : service.asyncMutex = .free := by
  have hnone : ∀ thread, ¬ service.Inside thread := by
    rintro thread (hpoint | ⟨-, hholds⟩)
    · exact hpoint (houtside thread)
    · exact hloop hholds
  cases hguards : service.asyncMutex with
  | mk holder =>
      have hheld := hservice.guards
      rw [hguards] at hheld
      cases hheld with
      | free => rfl
      | @held _ owner howner => exact absurd ((howner owner).mpr rfl) (hnone owner)

/-- Behind `push_back`, or between two subscribers, a thread can leave the function that
sends. -/
theorem exists_leave (hcancelled : service.Cancelled) (thread : Thread)
    (hinside : (service.activity thread).point = .pushed ∨
      (service.activity thread).point = .betweenSubscribers) :
    ∃ label next, service.step label = some next ∧ next.AllOutside ∧
      next.loop = service.loop ∧
      (next.activity .asyncThread).depth ≤ (service.activity .asyncThread).depth := by
  have hothers : ∀ other, other ≠ thread → (service.activity other).point = .outside := by
    intro other hne
    by_contra hpoint
    have hthread : (service.activity thread).point ≠ .outside := by
      obtain hpushed | hbetween := hinside
      · simp [hpushed]
      · simp [hbetween]
    exact hne (hcancelled.exclusive.guards.unique (.inl hpoint) (.inl hthread))
  have hleft : ∀ depth ≤ (service.activity thread).depth,
      ((service.setActivity thread depth .outside).unlock thread).AllOutside ∧
        ((service.setActivity thread depth .outside).unlock thread).loop = service.loop ∧
        (((service.setActivity thread depth .outside).unlock thread).activity
          .asyncThread).depth ≤ (service.activity .asyncThread).depth := by
    intro depth hdepth
    refine ⟨?_, rfl, ?_⟩
    · intro other
      by_cases hsame : other = thread
      · simp [unlock, setActivity, hsame]
      · simp [unlock, setActivity, hsame, hothers other hsame]
    · by_cases hsame : Thread.asyncThread = thread
      · subst hsame
        simpa [unlock, setActivity] using hdepth
      · simp [unlock, setActivity, hsame]
  obtain hpushed | hbetween := hinside
  · exact ⟨.unlockPushed thread, _, if_pos hpushed, hleft _ le_rfl⟩
  · exact ⟨.leaveSend thread, _, if_pos hbetween, hleft _ (Nat.sub_le _ 1)⟩

/-- A thread that is in a function that sends can leave it, and no other is in one. -/
theorem exists_allOutside (hcancelled : service.Cancelled) :
    ∃ labels next, Runs.run step service labels = some next ∧ next.AllOutside ∧
      next.loop = service.loop ∧
      (next.activity .asyncThread).depth ≤ (service.activity .asyncThread).depth := by
  by_cases hall : service.AllOutside
  · exact ⟨[], service, rfl, hall, rfl, le_rfl⟩
  obtain ⟨thread, hthread⟩ := not_forall.mp hall
  have hleave : (service.activity thread).point = .pushed ∨
      (service.activity thread).point = .betweenSubscribers →
      ∃ labels next, Runs.run step service labels = some next ∧ next.AllOutside ∧
        next.loop = service.loop ∧
        (next.activity .asyncThread).depth ≤ (service.activity .asyncThread).depth := by
    intro hinside
    obtain ⟨label, next, hstep, hnext⟩ := exists_leave hcancelled thread hinside
    exact ⟨[label], next, Runs.run_cons_eq_some.mpr ⟨next, hstep, rfl⟩, hnext⟩
  cases hpoint : (service.activity thread).point with
  | outside => exact absurd hpoint hthread
  | betweenSubscribers => exact hleave (.inr hpoint)
  | pushed => exact hleave (.inl hpoint)
  | pushing event =>
      let pushed := { service with
        asyncEventQueue := service.asyncEventQueue ++ [event]
        enqueued := service.enqueued ++ [event]
        }.setActivity thread (service.activity thread).depth .pushed
      have hpush : service.step (.pushBack thread) = some pushed := by
        simp only [step, hpoint]
        exact congrArg some (startAsyncLoop_of_cancel hcancelled.cancelled)
      have hone : Runs.run step service [.pushBack thread] = some pushed :=
        Runs.run_cons_eq_some.mpr ⟨pushed, hpush, rfl⟩
      have hat : (pushed.activity thread).point = .pushed := by
        simp [pushed, setActivity]
      obtain ⟨label, next, hstep, houtside, hloop, hdepth⟩ :=
        exists_leave (hcancelled.run hone) thread (.inl hat)
      refine ⟨[.pushBack thread, label], next, ?_, houtside, hloop, hdepth.trans ?_⟩
      · exact Runs.run_cons_eq_some.mpr ⟨pushed, hpush,
          Runs.run_cons_eq_some.mpr ⟨next, hstep, rfl⟩⟩
      · by_cases hsame : Thread.asyncThread = thread
        · subst hsame
          simp [pushed, setActivity]
        · simp [pushed, setActivity, hsame]

theorem lock_of_free (hfree : service.asyncMutex = .free) (thread : Thread) :
    service.lock thread = some { service with asyncMutex := ⟨some (thread, 0)⟩ } := by
  rw [lock, hfree]
  rfl

/-- The innermost handler that the loop's thread is in returns, and its
`sendEventSynchronous` after it. -/
theorem exists_handlerReturned (hcancelled : service.Cancelled)
    (hloop : service.loop = .dispatching) (houtside : service.AllOutside)
    (hdepth : 0 < (service.activity .asyncThread).depth) :
    ∃ next, Runs.run step service [.handlerReturns .asyncThread, .leaveSend .asyncThread] =
        some next ∧ next.loop = .dispatching ∧ next.AllOutside ∧
      (next.activity .asyncThread).depth < (service.activity .asyncThread).depth := by
  have hfree := hcancelled.exclusive.free houtside (by simp [hloop, LoopPoint.Holds])
  have hhandler : service.InHandler .asyncThread ∧
      0 < (service.activity .asyncThread).depth := ⟨⟨houtside _, fun _ => hdepth⟩, hdepth⟩
  let returned := { service.setActivity .asyncThread
    (service.activity .asyncThread).depth .betweenSubscribers with
      asyncMutex := ⟨some (.asyncThread, 0)⟩ }
  have hreturned : service.step (.handlerReturns .asyncThread) = some returned := by
    simp only [step]
    rw [if_pos hhandler]
    exact lock_of_free (show (service.setActivity _ _ _).asyncMutex = .free from hfree) _
  have hactivity : returned.activity .asyncThread =
      ⟨(service.activity .asyncThread).depth, .betweenSubscribers⟩ := by
    simp [returned, setActivity]
  let left := (returned.setActivity .asyncThread
    ((service.activity .asyncThread).depth - 1) .outside).unlock .asyncThread
  have hleave : returned.step (.leaveSend .asyncThread) = some left := by
    simp only [step, hactivity, if_true, left]
  have hleft : left.activity .asyncThread =
      ⟨(service.activity .asyncThread).depth - 1, .outside⟩ := by
    simp [left, unlock, setActivity]
  refine ⟨left, Runs.run_cons_eq_some.mpr ⟨returned, hreturned,
    Runs.run_cons_eq_some.mpr ⟨left, hleave, rfl⟩⟩, hloop, ?_, ?_⟩
  · intro other
    by_cases hsame : other = .asyncThread
    · rw [hsame, hleft]
    · simpa [left, returned, unlock, setActivity, hsame] using houtside other
  · rw [hleft]
    exact Nat.sub_lt hdepth Nat.one_pos

/-- The handlers that the loop's thread is in can return one after another. -/
theorem exists_idle (hcancelled : service.Cancelled) (hloop : service.loop = .dispatching) :
    ∃ labels next, Runs.run step service labels = some next ∧ next.loop = .dispatching ∧
      next.AllOutside ∧ (next.activity .asyncThread).depth = 0 := by
  obtain ⟨labels, middle, hrun, houtside, hsame, -⟩ := exists_allOutside hcancelled
  have hprogress : ∀ state : AsyncService,
      (state.Cancelled ∧ state.loop = .dispatching ∧ state.AllOutside) →
      ¬ (state.activity .asyncThread).depth = 0 →
      ∃ labels next, Runs.run step state labels = some next ∧
        (next.Cancelled ∧ next.loop = .dispatching ∧ next.AllOutside) ∧
        (next.activity .asyncThread).depth < (state.activity .asyncThread).depth := by
    rintro state ⟨hstate, hdispatching, hall⟩ hgoal
    obtain ⟨next, htwo, hstill, hnextOutside, hless⟩ :=
      exists_handlerReturned hstate hdispatching hall (Nat.pos_of_ne_zero hgoal)
    exact ⟨_, next, htwo, ⟨hstate.run htwo, hstill, hnextOutside⟩, hless⟩
  obtain ⟨more, final, hmore, ⟨-, hfinal, hfinalOutside⟩, hdepth⟩ :=
    Runs.exists_run_of_measure
      (fun state : AsyncService => (state.activity .asyncThread).depth) hprogress
      ⟨hcancelled.run hrun, hsame.trans hloop, houtside⟩
  exact ⟨labels ++ more, final, Runs.run_append_eq_some.mpr ⟨middle, hrun, hmore⟩, hfinal,
    hfinalOutside, hdepth⟩

/-- A loop that is not at its end can take a step, when the other threads get out of its
way. -/
theorem exists_loopStep (hcancelled : service.Cancelled) (hstarted : service.loop ≠ .notStarted)
    (hfinished : service.loop ≠ .finished) :
    ∃ labels middle, Runs.run step service labels = some middle ∧
      middle.loop = service.loop ∧ ∃ next, middle.loopStep = some next := by
  obtain ⟨labels, middle, hrun, houtside, hsame, -⟩ := exists_allOutside hcancelled
  have hfree : ¬ service.loop.Holds → middle.asyncMutex = .free := by
    intro hnot
    exact (hcancelled.run hrun).exclusive.free houtside (hsame ▸ hnot)
  cases hloop : service.loop with
  | notStarted => exact absurd hloop hstarted
  | finished => exact absurd hloop hfinished
  | outer =>
      refine ⟨[], service, rfl, hloop, { service with loop := .finished }, ?_⟩
      simp only [loopStep, hloop, if_pos hcancelled.cancelled]
  | whileEmpty =>
      refine ⟨[], service, rfl, hloop, { service with loop := .whileNotEmpty }, ?_⟩
      simp only [loopStep, hloop]
      rw [if_neg (by simp [hcancelled.cancelled])]
  | whileNotEmpty =>
      refine ⟨[], service, rfl, hloop, { service with loop := .outer }.unlock .asyncThread, ?_⟩
      simp only [loopStep, hloop]
      split
      case h_1 hgoes _ => exact absurd (hcancelled.cancelled.symm.trans hgoes) (by decide)
      case h_2 => rfl
  | waiting =>
      refine ⟨labels, middle, hrun, hsame.trans hloop, ?_⟩
      simp only [loopStep, hsame, hloop]
      refine ⟨_, lock_of_free ?_ .asyncThread⟩
      exact hfree (by simp [hloop, LoopPoint.Holds])
  | popped event =>
      refine ⟨labels, middle, hrun, hsame.trans hloop, ?_⟩
      simp only [loopStep, hsame, hloop]
      refine ⟨_, lock_of_free ?_ .asyncThread⟩
      exact hfree (by simp [hloop, LoopPoint.Holds])
  | dispatching =>
      obtain ⟨more, idle, hmore, hidle, hallOutside, hdepth⟩ := exists_idle hcancelled hloop
      have hidleFree := (hcancelled.run hmore).exclusive.free hallOutside
        (by simp [hidle, LoopPoint.Holds])
      have hactivity : idle.activity .asyncThread = ⟨0, .outside⟩ := by
        have hpoint := hallOutside .asyncThread
        cases hat : idle.activity .asyncThread with
        | mk depth point =>
            rw [hat] at hdepth hpoint
            exact congrArg₂ Activity.mk hdepth hpoint
      refine ⟨more, idle, hmore, hidle, ?_⟩
      simp only [loopStep, hidle, if_pos hactivity]
      refine ⟨_, lock_of_free ?_ .asyncThread⟩
      exact hidleFree

/-- A cancelled loop can be brought to its end, whatever the other threads are doing. -/
theorem exists_finished (hcancelled : service.Cancelled) (hstarted : service.loop ≠ .notStarted) :
    ∃ labels final, Runs.run step service labels = some final ∧ final.loop = .finished := by
  have hprogress : ∀ state : AsyncService,
      (state.Cancelled ∧ state.loop ≠ .notStarted) → ¬ state.loop = .finished →
      ∃ labels next, Runs.run step state labels = some next ∧
        (next.Cancelled ∧ next.loop ≠ .notStarted) ∧
        next.loop.stepsLeft < state.loop.stepsLeft := by
    rintro state ⟨hstate, hbefore⟩ hgoal
    obtain ⟨labels, middle, hrun, hsame, next, hloopStep⟩ :=
      exists_loopStep hstate hbefore hgoal
    have hall : Runs.run step state (labels ++ [.loopStep]) = some next :=
      Runs.run_concat_eq_some.mpr ⟨middle, hrun, hloopStep⟩
    obtain ⟨-, -, -, hafter⟩ := stopping_run hstate.cancelled hall
    have hadvanced := (stopping_loopStep (hstate.run hrun).cancelled hloopStep).advanced
    simp only [Label.isLoopStep, if_true, hsame] at hadvanced
    exact ⟨_, next, hall, ⟨hstate.run hall, hafter hbefore⟩, Nat.lt_of_succ_le hadvanced.le⟩
  obtain ⟨labels, final, hrun, -, hfinal⟩ := Runs.exists_run_of_measure
    (fun state : AsyncService => state.loop.stepsLeft) hprogress ⟨hcancelled, hstarted⟩
  exact ⟨labels, final, hrun, hfinal⟩

/-! ## Joining -/

/-- What the threads do between the flag that `stopAsyncLoop` sets and its `join`: the
event in hand is the last that is passed on, the others stay in the queue, and the loop can
be brought to its end. -/
structure Joining (service : AsyncService) (labels : List Label) (next : AsyncService) : Prop where
  taken : next.passed ++ next.loop.inHand = service.passed ++ service.loop.inHand
  dropped : next.enqueued = service.passed ++ service.loop.inHand ++ next.asyncEventQueue
  bounded : labels.countP Label.isLoopStep ≤ 4
  joins : ∃ rest final, Runs.run step next rest = some final ∧ final.loop = .finished ∧
    final.passed = service.passed ++ service.loop.inHand

/-- In every schedule in which a thread stops the loop that runs. -/
theorem run_joining {labels more : List Label}
    (hrun : Runs.run step new labels = some service) (hstarted : service.loop ≠ .notStarted)
    (hmore : Runs.run step service (.stopAsyncLoop :: more) = some next) :
    Joining service more next := by
  have hkeeps : ∀ before label after, (before.Exclusive ∧ before.Accounted) →
      step before label = some after → after.Exclusive ∧ after.Accounted :=
    fun _ _ _ hbefore hstep => ⟨hbefore.1.step hstep, hbefore.2.step hstep⟩
  obtain ⟨hexclusive, haccounted⟩ := Runs.run_invariant hkeeps ⟨exclusive_new, rfl⟩ hrun
  obtain ⟨-, hnextAccounted⟩ := Runs.run_invariant hkeeps ⟨hexclusive, haccounted⟩ hmore
  obtain ⟨flagged, hflag, hafter⟩ := Runs.run_cons_eq_some.mp hmore
  have hset : flagged = { service with asyncCancel := true } :=
    (Option.some.inj hflag).symm.trans (stopAsyncLoop_of_started hstarted)
  have hcancelled : flagged.Cancelled := ⟨hexclusive.step hflag, by rw [hset]⟩
  have hsame : flagged.loop = service.loop ∧ flagged.passed = service.passed := by
    rw [hset]
    exact ⟨rfl, rfl⟩
  obtain ⟨-, htaken, hsteps, hstill⟩ := stopping_run hcancelled.cancelled hafter
  rw [hsame.1, hsame.2] at htaken
  rw [hsame.1] at hsteps hstill
  have hnext := hcancelled.run hafter
  obtain ⟨rest, final, hrest, hfinished⟩ := exists_finished hnext (hstill hstarted)
  obtain ⟨-, hpassed, -⟩ := stopping_run hnext.cancelled hrest
  refine ⟨htaken, ?_, ?_, rest, final, hrest, hfinished, ?_⟩
  · rw [← htaken]
    exact hnextAccounted
  · have hle := service.loop.stepsLeft_le
    omega
  · rw [← htaken, ← hpassed, hfinished]
    exact (List.append_nil _).symm

/-- Two events are appended, and the loop has the first in hand. -/
def secondInQueue : List Label :=
  [.lockToPush (.other 1) 5, .pushBack (.other 1), .unlockPushed (.other 1),
    .lockToPush (.other 1) 6, .pushBack (.other 1), .unlockPushed (.other 1),
    .loopStep, .loopStep, .loopStep]

/-- The second event is never passed on when the loop is stopped there. -/
theorem run_joining_dropped :
    ∃ service next, Runs.run step new secondInQueue = some service ∧
      Runs.run step service [.stopAsyncLoop, .loopStep, .callHandler .asyncThread] = some next ∧
      next.asyncEventQueue = [6] ∧
      Joining service [.loopStep, .callHandler .asyncThread] next := by
  have hrun : Runs.run step new secondInQueue = some _ := rfl
  have hmore : Runs.run step ((Runs.run step new secondInQueue).get rfl)
      [.stopAsyncLoop, .loopStep, .callHandler .asyncThread] = some _ := rfl
  exact ⟨_, _, hrun, hmore, rfl, run_joining hrun (fun hloop => by cases hloop) hmore⟩

end AsyncService

end Mbstf.Subscription
