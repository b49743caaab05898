import Mbstf.Controller.System
import Mbstf.Ingest.PullIngester

/-!
# The worker of the scheduled pulls

A streaming controller pulls what its manifest lists from a thread of its own.  The thread
waits for a manifest handler, then asks it for the next items again and again, and ends
when there are none.  `startWorker()` makes a thread only if the thread object has no id:
a thread that has ended keeps its id until somebody joins it, and only `abort()` does.
-/

namespace Mbstf.Controller

open Mbstf.Ingest Mbstf.Objects Mbstf.Runs Mbstf.Session

/-- `m_scheduledPullThread`. -/
inductive PullThread where
  /-- No thread: default constructed, or joined. -/
  | none
  /-- In the first loop of `workerLoop`, for a manifest handler. -/
  | waiting
  /-- In the second loop. -/
  | pulling
  /-- `workerLoop` has returned, and nobody has joined the thread. -/
  | finished
  deriving DecidableEq

/-- A thread is in `workerLoop`. -/
def PullThread.Running (thread : PullThread) : Prop := thread = .waiting ∨ thread = .pulling

theorem PullThread.Running.ne_none {thread : PullThread} (hrunning : thread.Running) :
    thread ≠ .none := by
  rcases hrunning with rfl | rfl
  · decide
  · decide

theorem PullThread.Running.ne_finished {thread : PullThread} (hrunning : thread.Running) :
    thread ≠ .finished := by
  rcases hrunning with rfl | rfl
  · decide
  · decide

/-- A thread object that is neither empty nor left over is of a thread in `workerLoop`. -/
theorem PullThread.running_iff (thread : PullThread) :
    thread.Running ↔ thread ≠ .none ∧ thread ≠ .finished := by
  constructor
  · exact fun hrunning => ⟨hrunning.ne_none, hrunning.ne_finished⟩
  · rintro ⟨hnone, hfinished⟩
    cases thread with
    | none => exact absurd rfl hnone
    | waiting => exact Or.inl rfl
    | pulling => exact Or.inr rfl
    | finished => exact absurd rfl hfinished

/-- `std::domain_error`, with its `what()`. -/
structure DomainError where
  what : String

/-- What a round of the worker meets: the next items with the time to fetch them at, or
the `std::domain_error` of `nextIngestItems`; the clock, read as each item is handed out
with so many behind it, and the default deadline; and whether libcurl gives a new ingester
its handle. -/
structure PullRound where
  nextIngestItems : Except DomainError (TimePoint × List PullObjectIngester.IngestItem)
  now : ℕ → TimePoint
  defaultDeadline : ℤ
  hasHandle : Bool

/-- The items of a round: none after the exception. -/
def PullRound.items (round : PullRound) : List PullObjectIngester.IngestItem :=
  match round.nextIngestItems with
  | .ok (_, items) => items
  | .error _ => []

/-- The items one after another to the ingesters, each with its deadline. -/
def handOut (round : PullRound) :
    List PullObjectIngester → List PullObjectIngester.IngestItem → List PullObjectIngester
  | [], _ => []
  | ingesters, [] => ingesters
  | ingester :: ingesters, item :: items =>
      ingester.fetch
          { item with deadline := some (round.now items.length + round.defaultDeadline) } ::
        handOut round ingesters items

/-- With an ingester for every item all of them are handed out. -/
theorem handOut_fetches (round : PullRound) {ingesters : List PullObjectIngester}
    {items : List PullObjectIngester.IngestItem} (hlength : items.length ≤ ingesters.length)
    {item : PullObjectIngester.IngestItem} (hitem : item ∈ items) :
    ∃ ingester ∈ handOut round ingesters items, ∃ deadline,
      { item with deadline := some deadline } ∈ ingester.fetchList := by
  induction items generalizing ingesters with
  | nil => cases hitem
  | cons first items ih =>
      cases ingesters with
      | nil => simp at hlength
      | cons ingester ingesters =>
          rcases List.mem_cons.mp hitem with rfl | hrest
          · refine ⟨_, List.mem_cons_self, round.now items.length + round.defaultDeadline, ?_⟩
            have hsort := DeadlineOrder.sort_perm PullObjectIngester.IngestItem.deadline
              (ingester.fetchList ++ [{ item with
                deadline := some (round.now items.length + round.defaultDeadline) }])
            exact hsort.mem_iff.mpr (List.mem_append_right _ List.mem_cons_self)
          · have hshorter : items.length ≤ ingesters.length := by simpa using hlength
            obtain ⟨later, hlater, deadline, hfetch⟩ := ih hshorter hrest
            exact ⟨later, List.mem_cons_of_mem _ hlater, deadline, hfetch⟩

/-- How far the thread of the store is with a manifest whose update was accepted. -/
inductive UpdatePoint where
  /-- It is not at such a manifest. -/
  | elsewhere
  /-- At `startWorker()`. -/
  | updated
  /-- Behind it. -/
  | restarted
  deriving DecidableEq

/-- A streaming controller with its threads, the worker of the scheduled pulls among
them. -/
structure Pulling where
  system : System
  manifestUpdate : UpdatePoint
  scheduledPullCancel : Bool
  scheduledPullThread : PullThread
  pullIngesters : List PullObjectIngester

/-- The steps: those of the controller without the worker, `startWorker()` after an update,
a look of the worker at the manifest handler, a round of it, and the two steps of
`abort()`. -/
inductive PullLabel where
  | system (label : Label)
  | restartWorker
  | poll
  | pull (round : PullRound)
  | cancel
  | join

namespace Pulling

/-- Before the constructor, whose first part makes the ingesters. -/
def start (setup : Setup) (pullIngesters : List PullObjectIngester) : Pulling where
  system := .start setup
  manifestUpdate := .elsewhere
  scheduledPullCancel := false
  scheduledPullThread := .none
  pullIngesters := pullIngesters

/-- `startWorker()`. -/
def startWorker (pulling : Pulling) : Pulling :=
  if pulling.scheduledPullThread = .none then { pulling with scheduledPullThread := .waiting }
  else pulling

/-- The step is `startWorker()` in the constructor. -/
def startsWorker (system : System) : Label → Bool
  | .construct => system.replacing.isNone && system.remaining.head? = some .startWorker
  | _ => false

/-- The step is the last of `processEvent` with an object that was passed to a packager:
`add(item)`, or the end of the destructor of that packager. -/
def finishes (system : System) : Label → Bool
  | .addItem =>
      match system.storeThread with
      | .holding _ index => ({ system with storeThread := .waiting }.released (some index)).isNone
      | _ => false
  | .resume =>
      match system.storeThread with
      | .destroying _ none => true
      | _ => false
  | _ => false

/-- The point the thread of the store is at after a step that led to the system `next`.  An
accepted update goes on with its object. -/
def pointAfter (pulling : Pulling) (next : System) (label : Label) : UpdatePoint :=
  match label with
  | .updateManifest .accepted =>
      if pulling.system.manifestHandler ∧ next.storeThread ≠ .waiting then .updated
      else pulling.manifestUpdate
  | label => if finishes pulling.system label then .elsewhere else pulling.manifestUpdate

/-- The thread of the store is to call `startWorker()` first. -/
def owesRestart (pulling : Pulling) : Label → Bool
  | .checkPackager => pulling.manifestUpdate = .updated
  | _ => false

/-- A step of the controller without the worker. -/
def systemStep (setup : Setup) (pulling : Pulling) (label : Label) : Option Pulling :=
  if pulling.owesRestart label then none
  else
    (pulling.system.step setup label).map fun next =>
      { (if startsWorker pulling.system label then pulling.startWorker else pulling) with
        system := next, manifestUpdate := pulling.pointAfter next label }

/-- One look of the first loop of `workerLoop`. -/
def poll (pulling : Pulling) : Pulling :=
  if pulling.scheduledPullCancel then { pulling with scheduledPullThread := .finished }
  else if pulling.system.manifestHandler then { pulling with scheduledPullThread := .pulling }
  else pulling

/-- One round of the second loop of `workerLoop`. -/
def pull (pulling : Pulling) (round : PullRound) : Pulling :=
  if pulling.scheduledPullCancel ∨ round.items = [] then
    { pulling with scheduledPullThread := .finished }
  else
    { pulling with
      pullIngesters :=
        handOut round
          (pulling.pullIngesters ++
            List.replicate (round.items.length - pulling.pullIngesters.length)
              (.new round.hasHandle []))
          round.items }

def step (setup : Setup) (pulling : Pulling) : PullLabel → Option Pulling
  | .system label => pulling.systemStep setup label
  | .restartWorker =>
      if pulling.manifestUpdate = .updated then
        some { pulling.startWorker with manifestUpdate := .restarted }
      else none
  | .poll => if pulling.scheduledPullThread = .waiting then some pulling.poll else none
  | .pull round =>
      if pulling.scheduledPullThread = .pulling then some (pulling.pull round) else none
  | .cancel => some { pulling with scheduledPullCancel := true }
  | .join =>
      if pulling.scheduledPullCancel ∧ pulling.scheduledPullThread = .finished then
        some { pulling with scheduledPullThread := .none }
      else none

/-! ## What the steps do to the thread -/

theorem startWorker_thread (pulling : Pulling) :
    pulling.startWorker.scheduledPullThread ≠ .none ∧
      (pulling.startWorker.scheduledPullThread = .finished ↔
        pulling.scheduledPullThread = .finished) ∧
      pulling.startWorker.scheduledPullCancel = pulling.scheduledPullCancel := by
  rw [startWorker]
  split
  · rename_i hnone
    simp [hnone]
  · rename_i hsome
    exact ⟨hsome, Iff.rfl, rfl⟩

theorem pointAfter_eq_restarted {pulling : Pulling} {next : System} {label : Label}
    (hpoint : pulling.pointAfter next label = .restarted) :
    pulling.manifestUpdate = .restarted := by
  cases label with
  | updateManifest result =>
      cases result with
      | accepted =>
          simp only [pointAfter] at hpoint
          split at hpoint
          · cases hpoint
          · exact hpoint
      | refused => exact hpoint
      | throws => exact hpoint
  | _ =>
      simp only [pointAfter] at hpoint
      split at hpoint
      · cases hpoint
      · exact hpoint

theorem startsWorker_of_finishes {system : System} {label : Label}
    (hfinishes : finishes system label = true) : startsWorker system label = false := by
  cases label with
  | construct => cases hfinishes
  | _ => rfl

/-- A step of the controller without the worker ends no thread and cancels nothing, and
comes to no point behind `startWorker()` by itself. -/
theorem systemStep_thread {setup : Setup} {pulling next : Pulling} {label : Label}
    (hstep : pulling.systemStep setup label = some next) :
    next.scheduledPullCancel = pulling.scheduledPullCancel ∧
      (next.scheduledPullThread = .finished ↔ pulling.scheduledPullThread = .finished) ∧
      (pulling.scheduledPullThread ≠ .none → next.scheduledPullThread ≠ .none) ∧
      (next.manifestUpdate = .restarted → pulling.manifestUpdate = .restarted) := by
  rw [systemStep] at hstep
  split at hstep
  · cases hstep
  · obtain ⟨system, -, rfl⟩ := Option.map_eq_some_iff.mp hstep
    by_cases hstarts : startsWorker pulling.system label = true
    · obtain ⟨hmade, hfinished, hcancel⟩ := pulling.startWorker_thread
      simp only [hstarts, if_true]
      exact ⟨hcancel, hfinished, fun _ => hmade, pointAfter_eq_restarted⟩
    · simp only [hstarts]
      exact ⟨rfl, Iff.rfl, id, pointAfter_eq_restarted⟩

/-- A look at the manifest handler, in a thread that is not cancelled. -/
theorem poll_running {pulling : Pulling} (hcancel : pulling.scheduledPullCancel = false)
    (hwaiting : pulling.scheduledPullThread = .waiting) :
    pulling.poll.scheduledPullThread.Running := by
  rw [poll, hcancel, if_neg Bool.false_ne_true]
  split
  · exact Or.inr rfl
  · exact Or.inl hwaiting

theorem poll_same (pulling : Pulling) :
    pulling.poll.scheduledPullCancel = pulling.scheduledPullCancel := by
  rw [poll]
  split
  · rfl
  · split
    · rfl
    · rfl

theorem pull_same (pulling : Pulling) (round : PullRound) :
    (pulling.pull round).scheduledPullCancel = pulling.scheduledPullCancel := by
  rw [pull]
  split
  · rfl
  · rfl

/-- A round that is not cancelled has all its items fetched. -/
theorem pull_fetches {pulling : Pulling} (round : PullRound)
    (hcancel : pulling.scheduledPullCancel = false)
    {item : PullObjectIngester.IngestItem} (hitem : item ∈ round.items) :
    ∃ ingester ∈ (pulling.pull round).pullIngesters, ∃ deadline,
      { item with deadline := some deadline } ∈ ingester.fetchList := by
  have hne : round.items ≠ [] := List.ne_nil_of_mem hitem
  rw [pull, if_neg (by simp [hcancel, hne])]
  apply handOut_fetches round ?_ hitem
  rw [List.length_append, List.length_replicate]
  omega

/-- A round that is not cancelled ends the thread if and only if it has no items. -/
theorem pull_thread {pulling : Pulling} (round : PullRound)
    (hcancel : pulling.scheduledPullCancel = false)
    (hpulling : pulling.scheduledPullThread = .pulling) :
    (pulling.pull round).scheduledPullThread =
      if round.items = [] then .finished else .pulling := by
  by_cases hempty : round.items = []
  · simp [pull, hempty]
  · simp [pull, hempty, hcancel, hpulling]

end Pulling

/-! ## The worker after an update -/

/-- A controller, whether a round of its worker that was not cancelled found nothing to
pull, and whether the last step was the return of `processEvent` from an accepted update. -/
structure WatchedWorker where
  pulling : Pulling
  ranDry : Bool
  returned : Bool

/-- The step is a round that finds nothing to pull. -/
def PullLabel.findsNothing : PullLabel → Bool
  | .pull round => round.items.isEmpty
  | _ => false

/-- The step is the last of `processEvent` with an accepted update. -/
def Pulling.returns (pulling : Pulling) : PullLabel → Bool
  | .system label => finishes pulling.system label ∧ pulling.manifestUpdate = .restarted
  | _ => false

namespace WatchedWorker

variable (setup : Setup)

def start (pullIngesters : List PullObjectIngester) : WatchedWorker :=
  ⟨.start setup pullIngesters, false, false⟩

def record (watched : WatchedWorker) (label : PullLabel) (next : Pulling) : WatchedWorker where
  pulling := next
  ranDry := watched.ranDry || (label.findsNothing && !watched.pulling.scheduledPullCancel)
  returned := watched.pulling.returns label

def step (watched : WatchedWorker) (label : PullLabel) : Option WatchedWorker :=
  (watched.pulling.step setup label).map (watched.record label)

/-- When `processEvent` has returned from an accepted update and the pulls are not
cancelled, a thread is in `workerLoop`. -/
def Served (watched : WatchedWorker) : Prop :=
  watched.returned = true → watched.pulling.scheduledPullCancel = false →
    watched.pulling.scheduledPullThread.Running

/-- The step is not the return from an accepted update, with the pulls not cancelled, after
a round that found nothing to pull. -/
def BeforeDry (watched : WatchedWorker) (label : PullLabel) : Prop :=
  watched.pulling.returns label = true → watched.pulling.scheduledPullCancel = false →
    watched.ranDry = false

/-- The thread has ended if and only if a round has found nothing to pull, and there is one
behind every `startWorker()`. -/
structure Lifecycle (watched : WatchedWorker) : Prop where
  finished : watched.pulling.scheduledPullThread = .finished ↔ watched.ranDry = true
  restarted : watched.pulling.manifestUpdate = .restarted →
    watched.pulling.scheduledPullThread ≠ .none

/-- That is the life of the thread until the pulls are cancelled. -/
def Alive (watched : WatchedWorker) : Prop :=
  watched.pulling.scheduledPullCancel = false → watched.Lifecycle

variable {setup}

theorem alive_start (pullIngesters : List PullObjectIngester) :
    (start setup pullIngesters).Alive := by
  intro _
  refine ⟨?_, ?_⟩
  · simp [start, Pulling.start]
  · intro hpoint
    cases hpoint

/-- A step that neither cancels nor ends the thread keeps the life of the thread. -/
theorem Lifecycle.of_same {watched next : WatchedWorker} (hlife : watched.Lifecycle)
    (hfinished : next.pulling.scheduledPullThread = .finished ↔
      watched.pulling.scheduledPullThread = .finished)
    (hdry : next.ranDry = watched.ranDry)
    (hrestarted : next.pulling.manifestUpdate = .restarted →
      next.pulling.scheduledPullThread ≠ .none) : next.Lifecycle where
  finished := by
    rw [hfinished, hdry]
    exact hlife.finished
  restarted := hrestarted

theorem record_ranDry (watched : WatchedWorker) {label : PullLabel} (next : Pulling)
    (hlabel : label.findsNothing = false) :
    (watched.record label next).ranDry = watched.ranDry := by
  simp [record, hlabel]

theorem Alive.poll {watched : WatchedWorker} (halive : watched.Alive)
    (hwaiting : watched.pulling.scheduledPullThread = .waiting) :
    (watched.record .poll watched.pulling.poll).Alive := by
  intro hcancel
  have hbefore : watched.pulling.scheduledPullCancel = false :=
    watched.pulling.poll_same.symm.trans hcancel
  have hrunning := Pulling.poll_running hbefore hwaiting
  have hstill : watched.pulling.scheduledPullThread.Running := Or.inl hwaiting
  exact (halive hbefore).of_same (iff_of_false hrunning.ne_finished hstill.ne_finished)
    (watched.record_ranDry _ rfl) fun _ => hrunning.ne_none

theorem Alive.pull {watched : WatchedWorker} (halive : watched.Alive) (round : PullRound)
    (hpulling : watched.pulling.scheduledPullThread = .pulling) :
    (watched.record (.pull round) (watched.pulling.pull round)).Alive := by
  intro hcancel
  have hbefore : watched.pulling.scheduledPullCancel = false :=
    (watched.pulling.pull_same round).symm.trans hcancel
  have hthread := Pulling.pull_thread round hbefore hpulling
  -- The thread was in its second loop, so that no round was dry.
  have hwet : watched.ranDry = false := by
    have hfinished := (halive hbefore).finished
    rw [hpulling] at hfinished
    simpa using hfinished
  by_cases hempty : round.items = []
  · rw [if_pos hempty] at hthread
    refine ⟨?_, ?_⟩
    · exact iff_of_true hthread (by simp [record, PullLabel.findsNothing, hempty, hbefore])
    · simp [record, hthread]
  · rw [if_neg hempty] at hthread
    refine ⟨?_, ?_⟩
    · simp [record, PullLabel.findsNothing, hempty, hthread, hwet]
    · simp [record, hthread]

theorem Alive.step {watched next : WatchedWorker} {label : PullLabel}
    (halive : watched.Alive) (hstep : watched.step setup label = some next) : next.Alive := by
  obtain ⟨pulling, hpulling, rfl⟩ := Option.map_eq_some_iff.mp hstep
  cases label with
  | system label =>
      obtain ⟨hcancel, hfinished, hmade, hpoint⟩ := Pulling.systemStep_thread hpulling
      intro hnot
      have hlife := halive (hcancel.symm.trans hnot)
      exact hlife.of_same hfinished (watched.record_ranDry _ rfl) fun hrestarted =>
        hmade (hlife.restarted (hpoint hrestarted))
  | restartWorker =>
      simp only [Pulling.step, Option.ite_none_right_eq_some, Option.some.injEq] at hpulling
      obtain ⟨-, rfl⟩ := hpulling
      obtain ⟨hmade, hfinished, hcancel⟩ := watched.pulling.startWorker_thread
      intro hnot
      exact (halive (hcancel.symm.trans hnot)).of_same hfinished
        (watched.record_ranDry _ rfl) fun _ => hmade
  | poll =>
      simp only [Pulling.step, Option.ite_none_right_eq_some, Option.some.injEq] at hpulling
      obtain ⟨hwaiting, rfl⟩ := hpulling
      exact halive.poll hwaiting
  | pull round =>
      simp only [Pulling.step, Option.ite_none_right_eq_some, Option.some.injEq] at hpulling
      obtain ⟨hsecond, rfl⟩ := hpulling
      exact halive.pull round hsecond
  | cancel =>
      obtain rfl := Option.some.inj hpulling
      intro hnot
      cases hnot
  | join =>
      simp only [Pulling.step, Option.ite_none_right_eq_some, Option.some.injEq] at hpulling
      obtain ⟨⟨hcancelled, -⟩, rfl⟩ := hpulling
      intro hnot
      rw [record, hcancelled] at hnot
      cases hnot

/-- The return from an update changes nothing about the worker. -/
theorem returns_same {pulling next : Pulling} {label : PullLabel}
    (hreturns : pulling.returns label = true) (hstep : pulling.step setup label = some next) :
    next.scheduledPullCancel = pulling.scheduledPullCancel ∧
      next.scheduledPullThread = pulling.scheduledPullThread ∧
      pulling.manifestUpdate = .restarted := by
  cases label with
  | system label =>
      obtain ⟨hfinishes, hpoint⟩ := of_decide_eq_true hreturns
      have hnot : Pulling.startsWorker pulling.system label = false :=
        Pulling.startsWorker_of_finishes hfinishes
      simp only [Pulling.step, Pulling.systemStep] at hstep
      split at hstep
      · cases hstep
      · obtain ⟨system, -, rfl⟩ := Option.map_eq_some_iff.mp hstep
        simp only [hnot]
        exact ⟨rfl, rfl, hpoint⟩
  | _ => cases hreturns

/-- A step leaves the controller with a worker if and only if it is not the return from an
update after a dry round. -/
theorem served_step {watched next : WatchedWorker} {label : PullLabel}
    (halive : watched.Alive) (hstep : watched.step setup label = some next) :
    next.Served ↔ watched.BeforeDry label := by
  obtain ⟨pulling, hpulling, rfl⟩ := Option.map_eq_some_iff.mp hstep
  by_cases hreturns : watched.pulling.returns label = true
  · obtain ⟨hcancel, hthread, hpoint⟩ := returns_same hreturns hpulling
    have hdry : watched.pulling.scheduledPullCancel = false →
        (watched.pulling.scheduledPullThread.Running ↔ watched.ranDry = false) := by
      intro hnot
      have hlife := halive hnot
      rw [PullThread.running_iff, Ne, Ne, hlife.finished, Bool.not_eq_true]
      exact and_iff_right (hlife.restarted hpoint)
    simp only [Served, BeforeDry, record, hreturns, hcancel, hthread, true_implies]
    exact forall_congr' hdry
  · have hserved : (watched.record label pulling).Served := fun hreturned _ =>
      absurd hreturned hreturns
    exact iff_of_true hserved fun hreturned _ => absurd hreturned hreturns

/-- In any interleaving of the threads of a streaming controller, a thread is in
`workerLoop` whenever `processEvent` has returned from an accepted update with the pulls
not cancelled, if and only if no round has found nothing to pull before such a return. -/
theorem served_throughout_iff (manifestUrl : String) (destIpAddr : Option String)
    (pullIngesters : List PullObjectIngester) (labels : List PullLabel) :
    Throughout (step ⟨.objectStreaming, manifestUrl, destIpAddr⟩) Served
        (start ⟨.objectStreaming, manifestUrl, destIpAddr⟩ pullIngesters) labels ↔
      Guarded (step ⟨.objectStreaming, manifestUrl, destIpAddr⟩) BeforeDry
        (start ⟨.objectStreaming, manifestUrl, destIpAddr⟩ pullIngesters) labels := by
  have hserved : (start ⟨.objectStreaming, manifestUrl, destIpAddr⟩ pullIngesters).Served := by
    intro hreturned
    cases hreturned
  have hkept : ∀ (watched : WatchedWorker) (label : PullLabel) (next : WatchedWorker),
      watched.Alive → watched.Served →
        watched.step ⟨.objectStreaming, manifestUrl, destIpAddr⟩ label = some next →
          next.Alive :=
    fun _ _ _ halive _ hstep => halive.step hstep
  have hexact : ∀ (watched : WatchedWorker) (label : PullLabel) (next : WatchedWorker),
      watched.Alive → watched.Served →
        watched.step ⟨.objectStreaming, manifestUrl, destIpAddr⟩ label = some next →
          (next.Served ↔ watched.BeforeDry label) :=
    fun _ _ _ halive _ hstep => served_step halive hstep
  exact throughout_iff_guarded hkept hexact (alive_start pullIngesters) hserved

/-- A round in which the manifest lists nothing to pull. -/
def dryRound : PullRound where
  nextIngestItems := .ok (0, [])
  now := fun _ => 0
  defaultDeadline := 0
  hasHandle := true

def liveSetup : Setup :=
  ⟨.objectStreaming, "http://example.com/live.mpd", some "239.0.0.1"⟩

/-- The manifest is added, under an id. -/
def addManifest (objectId : String) : List PullLabel :=
  [.addObject objectId [60] (.new 100 objectId "application/dash+xml"
      "http://example.com/live.mpd" "http://example.com/live.mpd" "live.mpd" 90 none none none),
    .popEvent, .dispatch, .handle, .updateManifest .accepted].map .system

/-- A handler is made of the manifest, which runs dry, and is then updated. -/
def updateAfterDry : List PullLabel :=
  let constructed : List Label := List.replicate 6 .construct
  let packaged : List Label := [.checkPackager, .getObjectListPackager, .addItem]
  let pulled : List PullLabel := [.poll, .pull dryRound]
  let restarted : List PullLabel := [.restartWorker]
  constructed.map .system ++ addManifest "1" ++ packaged.map .system ++ pulled ++
    addManifest "2" ++ restarted ++ packaged.map .system

/-- The thread that has ended is still there, and no other is started. -/
theorem updateAfterDry_not_served :
    ∃ final, run (step liveSetup) (start liveSetup []) updateAfterDry =
        some final ∧
      final.returned = true ∧ final.pulling.scheduledPullCancel = false ∧
      final.pulling.scheduledPullThread = .finished ∧ ¬ final.Served := by
  have hends : (run (step liveSetup) (start liveSetup [])
      updateAfterDry).any (fun final =>
        final.returned = true ∧ final.pulling.scheduledPullCancel = false ∧
          final.pulling.scheduledPullThread = .finished) = true := by
    decide +kernel
  obtain ⟨final, hrun, hfinal⟩ := (Option.any_eq_true _ _).mp hends
  obtain ⟨hreturned, hcancel, hthread⟩ := of_decide_eq_true hfinal
  exact ⟨final, hrun, hreturned, hcancel, hthread, fun hserved =>
    (hserved hreturned hcancel).ne_finished hthread⟩

end WatchedWorker

end Mbstf.Controller
