import Mbstf.Controller.Versions

/-!
# Teardown of a controller

The destructors of a controller run while the threads of its store, of its packagers
and of its ingesters do.  When the most-derived one has returned, `processEvent` is no
longer that of the controller, and later there is no controller at all.
-/

namespace Mbstf.Controller

open Std Mbstf.Objects Mbstf.Runs Mbstf.Session

/-- The steps of the destructors. -/
inductive TeardownStep where
  /-- `abort()`, which joins the thread of the scheduled pulls. -/
  | abort
  /-- The most-derived destructor returns. -/
  | returns
  /-- The destruction of `m_packager` begins, and that of the packager if it was the last
  pointer to it. -/
  | destroyPackager
  | packagerDestroyed
  /-- `MHD_stop_daemon`. -/
  | stopPushIngester
  | joinPullIngesters
  /-- `m_asyncCancel = true` in the store. -/
  | cancelStore
  | joinStore
  /-- The destructor of `Subscriber`. -/
  | unsubscribe
  deriving DecidableEq

/-- The members of `ObjectController`, the last one first, and its base `Subscriber`. -/
def memberSteps : List TeardownStep :=
  [.destroyPackager, .packagerDestroyed, .stopPushIngester, .joinPullIngesters, .cancelStore,
    .joinStore, .unsubscribe]

/-- What follows the most-derived destructor. -/
def baseSteps : ControllerKind → List TeardownStep
  | .objectList => memberSteps
  | .objectStreaming => .abort :: memberSteps

/-- The destructors. -/
def teardownSteps : ControllerKind → List TeardownStep
  | .objectList => .returns :: baseSteps .objectList
  | .objectStreaming => .abort :: .returns :: baseSteps .objectStreaming

/-- The daemon of the push ingester, if there is one. -/
inductive PushThread where
  | absent
  | idle
  /-- In `processEvent` with an `ObjectPushStart`. -/
  | deciding
  deriving DecidableEq

/-- A controller that is being destroyed, with its threads. -/
structure Teardown where
  remaining : List TeardownStep
  system : System
  push : PushThread
  scheduledPull : Bool

/-- The steps of the destructors and of the threads. -/
inductive TeardownLabel where
  | destroy
  | thread (label : Label)
  | startPush
  | endPush
  | endScheduledPull

/-- The controller has nothing to hear from the packager: if it is subscribed, no event is
in the queue, and none in the hand of the thread. -/
structure RunningPackager.Quiet (running : RunningPackager) : Prop where
  thread : ¬ running.eventThread.InHandler
  inHand : running.subscribed = true → running.eventThread = .waiting
  completed : running.life ≠ .destroyed → running.subscribed = true →
    running.packager.completed = []

namespace Teardown

/-- When the destructors are entered. -/
def enter (kind : ControllerKind) (system : System) (push : PushThread)
    (scheduledPull : Bool) : Teardown :=
  ⟨teardownSteps kind, system, push, scheduledPull⟩

/-- The next step of the destructors; a join waits for the thread. -/
def destroy (teardown : Teardown) : Option Teardown :=
  match teardown.remaining with
  | [] => none
  | .abort :: rest =>
      if teardown.scheduledPull then none else some { teardown with remaining := rest }
  | .returns :: rest => some { teardown with remaining := rest }
  | .destroyPackager :: rest =>
      some { teardown with
        remaining := rest
        system := { teardown.system with
          current := none
          replacing := { teardown.system with current := none }.released
            teardown.system.current } }
  | .packagerDestroyed :: rest =>
      if teardown.system.replacing.all teardown.system.isDestroyed then
        some { teardown with
          remaining := rest, system := { teardown.system with replacing := none } }
      else none
  | .stopPushIngester :: rest =>
      if teardown.push = .deciding then none
      else some { teardown with remaining := rest, push := .absent }
  | .joinPullIngesters :: rest =>
      some { teardown with
        remaining := rest, system := { teardown.system with ingesting := false } }
  | .cancelStore :: rest => some { teardown with remaining := rest }
  | .joinStore :: rest =>
      if teardown.system.storeThread = .waiting then
        some { teardown with
          remaining := rest, system := { teardown.system with subscribed := false } }
      else none
  | .unsubscribe :: rest =>
      some { teardown with
        remaining := rest, system := { teardown.system with subscribed := false } }

/-- A step of one of the threads of the controller.  The constructor has returned, and
the thread of the store takes no event when it is cancelled. -/
def thread (setup : Setup) (teardown : Teardown) (label : Label) : Option Teardown :=
  match label with
  | .construct => none
  | .popEvent =>
      if .cancelStore ∉ teardown.remaining then none
      else teardown.system.popEvent.map fun next => { teardown with system := next }
  | label =>
      (teardown.system.step setup label).map fun next => { teardown with system := next }

def step (setup : Setup) (teardown : Teardown) : TeardownLabel → Option Teardown
  | .destroy => teardown.destroy
  | .thread label => teardown.thread setup label
  | .startPush =>
      if teardown.push = .idle then some { teardown with push := .deciding } else none
  | .endPush => if teardown.push = .deciding then some { teardown with push := .idle } else none
  | .endScheduledPull =>
      if teardown.scheduledPull then some { teardown with scheduledPull := false } else none

/-- No thread is in `processEvent`. -/
structure Idle (teardown : Teardown) : Prop where
  store : ¬ teardown.system.storeThread.InHandler
  packagers : ∀ running ∈ teardown.system.packagers, ¬ running.eventThread.InHandler
  push : teardown.push ≠ .deciding

/-- No thread is in `processEvent` once the most-derived destructor has returned. -/
def Untouched (teardown : Teardown) : Prop := .returns ∉ teardown.remaining → teardown.Idle

/-- No thread is in `processEvent`, and no event waits for the controller or is in the hand
of a thread that dispatches to it. -/
structure Quiet (teardown : Teardown) : Prop where
  store : ¬ teardown.system.storeThread.InHandler
  inHand : teardown.system.subscribed = true → teardown.system.storeThread = .waiting
  events : teardown.system.subscribed = true → teardown.system.objects.events = []
  packagers : ∀ running ∈ teardown.system.packagers, running.Quiet
  push : teardown.push ≠ .deciding

/-- The step brings no new event for the controller: no object is added to a store that
it is subscribed to, no transmission is completed in a packager that it is subscribed
to, and no push starts. -/
def Calm (teardown : Teardown) : TeardownLabel → Prop
  | .thread (.addObject _ _ _) => teardown.system.subscribed = false
  | .thread (.packager index (.runOne tois)) => ∀ running,
      teardown.system.packagers[index]? = some running → running.subscribed = true →
        running.packager.queuedToi ∉ tois
  | .startPush => False
  | _ => True

end Teardown

/-! ## Quiet packagers -/

namespace RunningPackager

variable {running : RunningPackager} {objects : ObjectStore}

/-- Completions of other transmissions than the queued one change nothing. -/
theorem runOne_completed {packager : Packager} {tois : List ℕ}
    (hother : packager.queuedToi ∉ tois) :
    (packager.runOne tois).completed = packager.completed := by
  have hfold : tois.foldl Packager.onCompletion packager = packager := by
    induction tois with
    | nil => rfl
    | cons toi tois ih =>
        obtain ⟨hne, hrest⟩ := not_or.mp (List.mem_cons.not.mp hother)
        rw [List.foldl_cons, Packager.onCompletion, if_neg hne]
        exact ih hrest
  rw [Packager.runOne, hfold]

/-- With a completion waiting, the controller of a quiet packager is not subscribed. -/
theorem Quiet.subscribed_eq_false (hquiet : running.Quiet) (hlife : running.life ≠ .destroyed)
    {objectId : String} {rest : List String}
    (hcompleted : running.packager.completed = objectId :: rest) : running.subscribed = false := by
  by_contra hnot
  have hempty := hquiet.completed hlife (Bool.not_eq_false _ ▸ hnot)
  rw [hcompleted] at hempty
  cases hempty

/-- A step that leaves the thread of the events where it is. -/
theorem Quiet.same (hquiet : running.Quiet) {after : RunningPackager}
    (hthread : after.eventThread = running.eventThread)
    (hsubscribed : after.subscribed = running.subscribed)
    (hcompleted : after.life ≠ .destroyed → running.life ≠ .destroyed ∧
      (after.subscribed = true → after.packager.completed = running.packager.completed)) :
    after.Quiet where
  thread := by
    rw [hthread]
    exact hquiet.thread
  inHand := by
    rw [hthread, hsubscribed]
    exact hquiet.inHand
  completed := by
    intro hlife hafter
    obtain ⟨hbefore, hsame⟩ := hcompleted hlife
    rw [hsame hafter]
    exact hquiet.completed hbefore (hsubscribed ▸ hafter)

theorem Quiet.turn (hquiet : running.Quiet) {abandoned : Bool} {label : PackagerLabel}
    (hcalm : ∀ tois, label = .runOne tois → running.subscribed = true →
      running.packager.queuedToi ∉ tois)
    {after : Turn} (hturn : running.turn abandoned objects label = some after) :
    after.running.Quiet ∧ after.objects = objects := by
  have houtside := hquiet.thread
  cases turn_taken hturn with
  | begun transmitterThrows =>
      obtain ⟨hasTransmitter, worker, hbegin, -⟩ :=
        beginRound_eq running.packager transmitterThrows
      rw [hbegin]
      exact ⟨hquiet.same rfl rfl fun hlife => ⟨hlife, fun _ => rfl⟩, rfl⟩
  | @ran tois =>
      exact ⟨hquiet.same rfl rfl fun hlife =>
        ⟨hlife, fun hsubscribed => runOne_completed (hcalm tois rfl hsubscribed)⟩, rfl⟩
  | eventPopped hlife _ hcompleted =>
      have hsubscribed := hquiet.subscribed_eq_false hlife hcompleted
      refine ⟨⟨id, fun htrue => ?_, fun _ htrue => ?_⟩, rfl⟩
      · cases hsubscribed.symm.trans htrue
      · cases hsubscribed.symm.trans htrue
  | dispatched hpopped =>
      -- an event in hand goes to nobody
      have hsubscribed : running.subscribed = false := by
        by_contra hnot
        cases hpopped.symm.trans (hquiet.inHand (Bool.not_eq_false _ ▸ hnot))
      rw [dispatchSendCompleted, hsubscribed]
      exact ⟨⟨id, fun _ => rfl, fun _ hfalse => Bool.noConfusion hfalse⟩, rfl⟩
  | looked hhandling =>
      rw [hhandling] at houtside
      exact absurd trivial houtside
  | deleted hdeleting =>
      rw [hdeleting] at houtside
      exact absurd trivial houtside
  | workerJoined _ hlife =>
      exact ⟨hquiet.same rfl rfl fun _ => ⟨by rw [hlife]; decide, fun _ => rfl⟩, rfl⟩
  | eventsJoined _ _ hwaiting =>
      exact ⟨⟨houtside, fun _ => hwaiting, fun hlife => absurd rfl hlife⟩, rfl⟩
  | _ => exact ⟨hquiet.same rfl rfl fun hlife => ⟨hlife, fun _ => rfl⟩, rfl⟩

end RunningPackager

namespace Teardown

variable {setup : Setup} {teardown next : Teardown}

/-! ## Quiet teardowns -/

theorem Quiet.idle (hquiet : teardown.Quiet) : teardown.Idle where
  store := hquiet.store
  packagers := fun running hrunning => (hquiet.packagers running hrunning).thread
  push := hquiet.push

/-- A step that brings no event and no new packager. -/
theorem Quiet.same (hquiet : teardown.Quiet)
    (hstore : next.system.storeThread = teardown.system.storeThread)
    (hevents : next.system.objects.events = teardown.system.objects.events)
    (hsubscribed : next.system.subscribed = true → teardown.system.subscribed = true)
    (hpackagers : next.system.packagers = teardown.system.packagers)
    (hpush : next.push = .deciding → teardown.push = .deciding) : next.Quiet where
  store := by
    rw [hstore]
    exact hquiet.store
  inHand := by
    intro htrue
    rw [hstore]
    exact hquiet.inHand (hsubscribed htrue)
  events := by
    intro htrue
    rw [hevents]
    exact hquiet.events (hsubscribed htrue)
  packagers := by
    rw [hpackagers]
    exact hquiet.packagers
  push := fun hdeciding => hquiet.push (hpush hdeciding)

theorem Quiet.destroy (hquiet : teardown.Quiet) (hstep : teardown.destroy = some next) :
    next.Quiet := by
  unfold Teardown.destroy at hstep
  split at hstep
  case h_1 => cases hstep
  case h_2 =>
      obtain ⟨_, hnext⟩ := Option.ite_none_left_eq_some.mp hstep
      obtain rfl := Option.some.inj hnext
      exact hquiet.same rfl rfl id rfl id
  case h_5 =>
      obtain ⟨_, hnext⟩ := Option.ite_none_right_eq_some.mp hstep
      obtain rfl := Option.some.inj hnext
      exact hquiet.same rfl rfl id rfl id
  case h_6 =>
      obtain ⟨_, hnext⟩ := Option.ite_none_left_eq_some.mp hstep
      obtain rfl := Option.some.inj hnext
      exact hquiet.same rfl rfl id rfl fun hdeciding => PushThread.noConfusion hdeciding
  case h_9 =>
      obtain ⟨_, hnext⟩ := Option.ite_none_right_eq_some.mp hstep
      obtain rfl := Option.some.inj hnext
      exact hquiet.same rfl rfl (fun hfalse => Bool.noConfusion hfalse) rfl id
  case h_10 =>
      obtain rfl := Option.some.inj hstep
      exact hquiet.same rfl rfl (fun hfalse => Bool.noConfusion hfalse) rfl id
  all_goals
    obtain rfl := Option.some.inj hstep
    exact hquiet.same rfl rfl id rfl id

/-- A step of the thread of the store when the controller is not subscribed. -/
theorem Quiet.unsubscribed (hquiet : teardown.Quiet)
    (hsubscribed : teardown.system.subscribed = false)
    (hsame : next.system.subscribed = teardown.system.subscribed)
    (hpackagers : next.system.packagers = teardown.system.packagers)
    (hpush : next.push = teardown.push) (houtside : ¬ next.system.storeThread.InHandler) :
    next.Quiet where
  store := houtside
  inHand := fun htrue => by cases (hsame.trans hsubscribed).symm.trans htrue
  events := fun htrue => by cases (hsame.trans hsubscribed).symm.trans htrue
  packagers := by
    rw [hpackagers]
    exact hquiet.packagers
  push := by
    rw [hpush]
    exact hquiet.push

/-- There is no event for the controller in the queue of the store. -/
theorem Quiet.popEvent (hquiet : teardown.Quiet)
    (hstep : teardown.thread setup .popEvent = some next) : next.Quiet := by
  obtain ⟨_, hafter⟩ := Option.ite_none_left_eq_some.mp hstep
  obtain ⟨system, hsystem, rfl⟩ := Option.map_eq_some_iff.mp hafter
  cases @System.taken_popEvent setup _ _ hsystem with
  | popped _ hfront =>
      refine hquiet.unsubscribed ?_ rfl rfl rfl id
      by_contra htrue
      have hempty := hquiet.events (Bool.not_eq_false _ ▸ htrue)
      rw [hfront] at hempty
      cases hempty

/-- Nor is there one in the hand of its thread. -/
theorem Quiet.dispatch (hquiet : teardown.Quiet)
    (hstep : teardown.thread setup .dispatch = some next) : next.Quiet := by
  obtain ⟨system, hsystem, rfl⟩ := Option.map_eq_some_iff.mp hstep
  have hunsubscribed : ∀ {event}, teardown.system.storeThread = .popped event →
      teardown.system.subscribed = false := by
    intro event hpopped
    by_contra htrue
    cases hpopped.symm.trans (hquiet.inHand (Bool.not_eq_false _ ▸ htrue))
  cases @System.taken_dispatch setup _ _ hsystem with
  | dispatched hpopped htrue => cases (hunsubscribed hpopped).symm.trans htrue
  | unheard hpopped => exact hquiet.unsubscribed (hunsubscribed hpopped) rfl rfl rfl id
  | deletion hpopped =>
      have hnot := hunsubscribed hpopped
      refine hquiet.unsubscribed hnot rfl rfl rfl ?_
      simp [hnot, StoreThread.InHandler]

theorem Quiet.packager (hquiet : teardown.Quiet) {index : ℕ} {label : PackagerLabel}
    (hcalm : teardown.Calm (.thread (.packager index label))) {running : RunningPackager}
    (hrunning : teardown.system.packagers[index]? = some running) {turn : Turn}
    (hturn : running.turn (teardown.system.abandoned index) teardown.system.objects label =
      some turn) :
    ({ teardown with system := { teardown.system with
        objects := turn.objects
        packagers := teardown.system.packagers.set index turn.running
        books := { teardown.system.books with
          failed := teardown.system.books.failed ++ turn.failed } } } : Teardown).Quiet := by
  have hold := hquiet.packagers running (List.mem_of_getElem? hrunning)
  have hother : ∀ tois, label = .runOne tois → running.subscribed = true →
      running.packager.queuedToi ∉ tois := by
    rintro tois rfl hsubscribed
    exact hcalm running hrunning hsubscribed
  obtain ⟨hnew, hobjects⟩ := hold.turn hother hturn
  refine ⟨hquiet.store, hquiet.inHand, ?_, Held.forall_mem_set hquiet.packagers index hnew,
    hquiet.push⟩
  change _ → turn.objects.events = []
  rw [hobjects]
  exact hquiet.events

theorem Quiet.thread (hquiet : teardown.Quiet) {label : Label}
    (hcalm : teardown.Calm (.thread label))
    (hstep : teardown.thread setup label = some next) : next.Quiet := by
  have houtside := hquiet.store
  cases label with
  | construct => cases hstep
  | popEvent => exact hquiet.popEvent hstep
  | dispatch => exact hquiet.dispatch hstep
  | addObject objectId data metadata =>
      obtain ⟨system, hsystem, rfl⟩ := Option.map_eq_some_iff.mp hstep
      obtain ⟨_, hafter⟩ := Option.ite_none_right_eq_some.mp hsystem
      obtain rfl := Option.some.inj hafter
      refine ⟨hquiet.store, hquiet.inHand, fun htrue => ?_, hquiet.packagers, hquiet.push⟩
      cases hcalm.symm.trans htrue
  | packager index label =>
      obtain ⟨system, hsystem, rfl⟩ := Option.map_eq_some_iff.mp hstep
      cases System.step_taken hsystem with
      | packager hrunning hturn => exact hquiet.packager hcalm hrunning hturn
  | _ =>
      -- the thread of the store is in no handler
      obtain ⟨system, hsystem, rfl⟩ := Option.map_eq_some_iff.mp hstep
      exact absurd (System.inHandler_of_step hsystem (by trivial)) houtside

theorem Quiet.step (hquiet : teardown.Quiet) {label : TeardownLabel}
    (hcalm : teardown.Calm label) (hstep : teardown.step setup label = some next) :
    next.Quiet := by
  cases label with
  | destroy => exact hquiet.destroy hstep
  | thread label => exact hquiet.thread hcalm hstep
  | startPush => cases hcalm
  | endPush =>
      obtain ⟨_, hnext⟩ := Option.ite_none_right_eq_some.mp hstep
      obtain rfl := Option.some.inj hnext
      exact hquiet.same rfl rfl id rfl fun hdeciding => PushThread.noConfusion hdeciding
  | endScheduledPull =>
      obtain ⟨_, hnext⟩ := Option.ite_none_right_eq_some.mp hstep
      obtain rfl := Option.some.inj hnext
      exact hquiet.same rfl rfl id rfl id

/-! ## After the most-derived destructor -/

/-- The most-derived destructor has just returned. -/
def returned (kind : ControllerKind) (system : System) (push : PushThread)
    (scheduledPull : Bool) : Teardown :=
  ⟨baseSteps kind, system, push, scheduledPull⟩

theorem returns_not_mem_baseSteps (kind : ControllerKind) : .returns ∉ baseSteps kind := by
  cases kind with
  | objectList => decide
  | objectStreaming => decide

theorem cancelStore_mem_baseSteps (kind : ControllerKind) : .cancelStore ∈ baseSteps kind := by
  cases kind with
  | objectList => decide
  | objectStreaming => decide

/-- All interleavings of the teardown, with the threads that bring no new events. -/
def AlwaysUntouched (setup : Setup) (teardown : Teardown) : Prop :=
  ∀ labels, Guarded (step setup) Calm teardown labels →
    Throughout (step setup) Untouched teardown labels

theorem AlwaysUntouched.step (halways : teardown.AlwaysUntouched setup) {label : TeardownLabel}
    (hcalm : teardown.Calm label) (hstep : teardown.step setup label = some next) :
    next.AlwaysUntouched setup := by
  intro labels hguarded
  have hfirst : Guarded (Teardown.step setup) Calm teardown (label :: labels) := by
    intro other hother
    obtain rfl := Option.some.inj (hstep.symm.trans hother)
    exact ⟨hcalm, hguarded⟩
  exact (halways (label :: labels) hfirst).2 next hstep

theorem AlwaysUntouched.idle (halways : teardown.AlwaysUntouched setup)
    (hreturned : .returns ∉ teardown.remaining) : teardown.Idle :=
  (halways [] trivial).start hreturned

/-- An event in the hand of the thread of the store may be dispatched at once. -/
theorem AlwaysUntouched.inHand (halways : teardown.AlwaysUntouched setup)
    (hreturned : .returns ∉ teardown.remaining)
    (hsubscribed : teardown.system.subscribed = true) :
    teardown.system.storeThread = .waiting := by
  have houtside := (halways.idle hreturned).store
  cases hthread : teardown.system.storeThread with
  | waiting => rfl
  | popped event =>
      obtain ⟨thread, hstep, hinside⟩ : ∃ thread,
          teardown.step setup (.thread .dispatch) =
              some { teardown with system := { teardown.system with storeThread := thread } } ∧
            thread.InHandler := by
        cases event with
        | objectAdded objectId =>
            refine ⟨.handling objectId, ?_, trivial⟩
            simp [Teardown.step, Teardown.thread, System.step, System.dispatch, hthread,
              hsubscribed]
        | objectDeleted objectId =>
            refine ⟨.passing, ?_, trivial⟩
            simp [Teardown.step, Teardown.thread, System.step, System.dispatch, hthread,
              hsubscribed]
      exact absurd hinside ((halways.step (by trivial) hstep).idle hreturned).store
  | _ =>
      rw [hthread] at houtside
      exact absurd trivial houtside

/-- One in the queue may be taken. -/
theorem AlwaysUntouched.events (halways : teardown.AlwaysUntouched setup)
    (hreturned : .returns ∉ teardown.remaining) (hrunning : .cancelStore ∈ teardown.remaining)
    (hsubscribed : teardown.system.subscribed = true) :
    teardown.system.objects.events = [] := by
  by_contra hne
  obtain ⟨event, rest, hfront⟩ := List.exists_cons_of_ne_nil hne
  have hwaiting := halways.inHand hreturned hsubscribed
  have hstep : teardown.step setup (.thread .popEvent) = some { teardown with
      system := { teardown.system with
        objects := { teardown.system.objects with events := rest }
        storeThread := .popped event } } := by
    simp [Teardown.step, Teardown.thread, hrunning, System.popEvent, hwaiting, hfront]
  cases (halways.step (by trivial) hstep).inHand hreturned hsubscribed

/-- A step of a packager, with what it leaves. -/
theorem step_packager (setup : Setup) {index : ℕ} {running after : RunningPackager}
    (hindex : teardown.system.packagers[index]? = some running) {label : PackagerLabel}
    (hturn : running.turn (teardown.system.abandoned index) teardown.system.objects label =
      some ⟨after, teardown.system.objects, []⟩) :
    ∃ next : Teardown, teardown.step setup (.thread (.packager index label)) = some next ∧
      next.remaining = teardown.remaining ∧ after ∈ next.system.packagers := by
  refine ⟨{ teardown with system := { teardown.system with
      packagers := teardown.system.packagers.set index after
      books := { teardown.system.books with
        failed := teardown.system.books.failed ++ [] } } }, ?_, rfl, ?_⟩
  · simp only [step, thread, System.step, System.packagerStep, hindex, hturn, Option.map_some]
  · exact List.mem_set (List.getElem?_eq_some_iff.mp hindex).1 _

/-- So may one in the hand of the thread of a packager. -/
theorem AlwaysUntouched.packager_inHand (halways : teardown.AlwaysUntouched setup)
    (hreturned : .returns ∉ teardown.remaining) {running : RunningPackager}
    (hrunning : running ∈ teardown.system.packagers) (hsubscribed : running.subscribed = true) :
    running.eventThread = .waiting := by
  have houtside := (halways.idle hreturned).packagers running hrunning
  obtain ⟨index, hindex⟩ := List.getElem?_of_mem hrunning
  cases hthread : running.eventThread with
  | waiting => rfl
  | popped objectId =>
      have hturn : running.turn (teardown.system.abandoned index) teardown.system.objects
          .dispatchSendCompleted =
            some ⟨{ running with eventThread := .handling objectId },
              teardown.system.objects, []⟩ := by
        simp [RunningPackager.turn, hthread, RunningPackager.dispatchSendCompleted, hsubscribed]
      obtain ⟨next, hstep, hremaining, hmem⟩ := step_packager setup hindex hturn
      have hidle := (halways.step (by trivial) hstep).idle (hremaining ▸ hreturned)
      exact absurd trivial (hidle.packagers _ hmem)
  | _ =>
      rw [hthread] at houtside
      exact absurd trivial houtside

/-- And one in its queue may be taken. -/
theorem AlwaysUntouched.completed (halways : teardown.AlwaysUntouched setup)
    (hreturned : .returns ∉ teardown.remaining) {running : RunningPackager}
    (hrunning : running ∈ teardown.system.packagers) (hlife : running.life ≠ .destroyed)
    (hsubscribed : running.subscribed = true) : running.packager.completed = [] := by
  by_contra hne
  obtain ⟨objectId, rest, hfront⟩ := List.exists_cons_of_ne_nil hne
  obtain ⟨index, hindex⟩ := List.getElem?_of_mem hrunning
  have hwaiting := halways.packager_inHand hreturned hrunning hsubscribed
  have hturn : running.turn (teardown.system.abandoned index) teardown.system.objects
      .popSendCompleted =
        some ⟨{ running with
            packager := { running.packager with completed := rest }
            eventThread := .popped objectId }, teardown.system.objects, []⟩ := by
    simp [RunningPackager.turn, hlife, RunningPackager.popSendCompleted, hwaiting, hfront]
  obtain ⟨next, hstep, hremaining, hmem⟩ := step_packager setup hindex hturn
  cases (halways.step (by trivial) hstep).packager_inHand (hremaining ▸ hreturned) hmem
    hsubscribed

/-- When the most-derived destructor has returned, no interleaving of what is left of the
teardown with the threads of the controller has a thread in `processEvent` if and only if
no thread is in it and no event waits for the controller, in a queue or in a thread's
hand. -/
theorem returned_untouched_iff (setup : Setup) (system : System) (push : PushThread)
    (scheduledPull : Bool) :
    (returned setup.kind system push scheduledPull).AlwaysUntouched setup ↔
      (returned setup.kind system push scheduledPull).Quiet := by
  have hreturned := returns_not_mem_baseSteps setup.kind
  constructor
  · intro halways
    have hidle := halways.idle hreturned
    refine ⟨hidle.store, ?_, ?_, ?_, hidle.push⟩
    · exact halways.inHand hreturned
    · exact halways.events hreturned (cancelStore_mem_baseSteps setup.kind)
    · intro running hrunning
      exact ⟨hidle.packagers running hrunning, halways.packager_inHand hreturned hrunning,
        halways.completed hreturned hrunning⟩
  · intro hquiet labels hguarded
    have hstep : ∀ (teardown : Teardown) (label : TeardownLabel) (next : Teardown),
        teardown.Quiet → teardown.Calm label → teardown.step setup label = some next →
          next.Quiet :=
      fun _ _ _ hquiet hcalm hnext => hquiet.step hcalm hnext
    exact (throughout_of_guarded hstep hquiet hguarded).mono fun _ hquiet _ => hquiet.idle

/-- A controller of the kind that has just been constructed, and to whose store an
object was added, is destroyed. -/
def afterOneObject (setup : Setup) (labels : List TeardownLabel) : Option Teardown :=
  (run (System.step setup) (System.start setup)
      ((constructorSteps setup.kind).map (fun _ => .construct) ++ [System.objectOne])).bind
    fun system => run (step setup) (enter setup.kind system .absent false) labels

/-- The destructor returns, and then the event in the queue is dispatched, in both
controllers. -/
theorem afterOneObject_not_untouched :
    (∃ final, afterOneObject System.listSetup [.destroy, .thread .popEvent, .thread .dispatch] =
        some final ∧
      ¬ final.Untouched) ∧
    ∃ final, afterOneObject System.streamingSetup
        [.destroy, .destroy, .thread .popEvent, .thread .dispatch] = some final ∧
      ¬ final.Untouched := by
  have hlist : (afterOneObject System.listSetup
      [.destroy, .thread .popEvent, .thread .dispatch]).any
      (fun final => .returns ∉ final.remaining ∧ final.system.storeThread.InHandler) = true := by
    decide +kernel
  have hstreaming : (afterOneObject System.streamingSetup
      [.destroy, .destroy, .thread .popEvent, .thread .dispatch]).any
      (fun final => .returns ∉ final.remaining ∧ final.system.storeThread.InHandler) = true := by
    decide +kernel
  have htouched : ∀ final : Teardown,
      decide (.returns ∉ final.remaining ∧ final.system.storeThread.InHandler) = true →
        ¬ final.Untouched := by
    intro final hfinal huntouched
    obtain ⟨hreturned, hthread⟩ := of_decide_eq_true hfinal
    exact (huntouched hreturned).store hthread
  constructor
  · obtain ⟨final, hrun, hfinal⟩ := (Option.any_eq_true _ _).mp hlist
    exact ⟨final, hrun, htouched final hfinal⟩
  · obtain ⟨final, hrun, hfinal⟩ := (Option.any_eq_true _ _).mp hstreaming
    exact ⟨final, hrun, htouched final hfinal⟩

end Teardown

end Mbstf.Controller
