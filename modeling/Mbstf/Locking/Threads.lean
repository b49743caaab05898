import Mbstf.Core.JoinHolding

/-!
# The threads of a controller and their mutexes

A controller and what it owns make up to seven kinds of threads, which share nine kinds of
mutexes.  Each function of the source is written here as what it does that may have to wait
or that others may wait for: it locks and unlocks mutexes, starts threads and joins them.
Which branches are taken, how often loops turn and which calls throw are parameters, so that
a script is any run that the function could make.

An exception of a handler leaves its window without the mutex, and the guard around the
window unlocks it once more; for a recursive mutex that is an error and changes nothing.
-/

namespace Mbstf.Threads

open Mbstf.LockOrder

/-- The mutexes: `m_manifestHandlerMutex`, the `m_ingestItemsMutex` of a pull ingester, the
`m_packageItemsMutex` and the `m_asyncMutex` of a packager, the `m_mutex` and the
`m_asyncMutex` of the object store, the `m_mtx` and the `m_asyncMutex` of the push ingester,
and the `m_mutex` of a push request. -/
inductive Mutex where
  | manifestHandler
  | ingestItems (ingester : ℕ)
  | packageItems (packager : ℕ)
  | packagerAsync (packager : ℕ)
  | store
  | storeAsync
  | push
  | pushAsync
  | request (request : ℕ)
  deriving DecidableEq

/-- The threads: the one that constructs and destroys the controller, the scheduled pulls,
the events of the store, the worker of each pull ingester, the worker and the events of each
packager, and the worker, the HTTP daemon and the events of the push ingester. -/
inductive Thread (pulls packagers : ℕ) where
  | caller
  | scheduledPull
  | storeEvents
  | pull (ingester : Fin pulls)
  | worker (packager : Fin packagers)
  | packagerEvents (packager : Fin packagers)
  | pushWorker
  | daemon
  | pushEvents
  deriving DecidableEq, Fintype

variable {pulls packagers : ℕ}

/-- A script of a thread of a controller. -/
abbrev Steps (pulls packagers : ℕ) := Script (Thread pulls packagers) Mutex

/-! ## The event services -/

/-- What a call of `processEvent` does, and whether it returns. -/
structure Handled (pulls packagers : ℕ) where
  script : Steps pulls packagers
  returns : Bool

/-- A window that an exception leaves. -/
def leftWindow (mutex : Mutex) (body : Steps pulls packagers) : Steps pulls packagers :=
  .release mutex :: body

/-- The loops of `sendEventSynchronous(Event&)`: a handler that throws ends them. -/
def deliver (mutex : Mutex) : List (Handled pulls packagers) → Steps pulls packagers
  | [] => []
  | call :: calls =>
      if call.returns then window mutex call.script ++ deliver mutex calls
      else leftWindow mutex call.script

/-- `sendEventSynchronous(Event&)`. -/
def sendEventSynchronous (mutex : Mutex) (calls : List (Handled pulls packagers)) :
    Steps pulls packagers :=
  guarded mutex (deliver mutex calls)

/-- `sendEventAsynchronous(const std::shared_ptr<Event>&)`, with the thread that
`startAsyncLoop()` starts, unless it runs already. -/
def sendEventAsynchronous (mutex : Mutex) (events : Thread pulls packagers) :
    Steps pulls packagers :=
  guarded mutex [.start events]

/-- One turn of the outer loop of `asyncEventsLoop`: how often it waits for events, and for
each event it then takes, what is handled. -/
structure Turn (Handling : Type) where
  waits : ℕ
  events : List (List Handling)

/-- `asyncEventsLoop()`, for the turns it makes until it is cancelled. -/
def asyncEventsLoop {Handling : Type} (mutex : Mutex)
    (handle : Handling → Handled pulls packagers) (turns : List (Turn Handling)) :
    Steps pulls packagers :=
  turns.flatMap fun turn => guarded mutex
    ((List.range turn.waits).flatMap (fun _ => window mutex []) ++
      turn.events.flatMap fun calls =>
        window mutex (sendEventSynchronous mutex (calls.map handle)))

/-- What `~SubscriptionService` does: `stopAsyncLoop()`, and the removal of the subscribers. -/
def destroyService (mutex : Mutex) (events : Thread pulls packagers) : Steps pulls packagers :=
  .join events :: guarded mutex []

/-- `subscribe` of a service. -/
def subscribe (mutex : Mutex) : Steps pulls packagers := guarded mutex []

/-! ## The object store -/

/-- `getObjectData`, `getMetadata` and `operator[]`. -/
def lookUp : Steps pulls packagers := guarded .store []

/-- `addObject` and `deleteObject`: the event is sent under the mutex of the store. -/
def changeObject : Steps pulls packagers :=
  guarded .store (sendEventAsynchronous .storeAsync .storeEvents)

/-! ## The packagers -/

/-- `ObjectListPackager::add`. -/
def addItem (packager : Fin packagers) : Steps pulls packagers :=
  guarded (.packageItems packager) []

/-- A round of `doObjectPackage()`: without an address or a transmitter, with nothing to
send, with an object that is sent, or with an exception after so many lookups; and the
completions that `run_one` reports. -/
inductive PackageRound where
  | skipped
  | idle (completions : ℕ)
  | sent (completions : ℕ)
  | failed (lookups : ℕ)

/-- The completion callback, for so many objects. -/
def objectSendCompletion (packager : Fin packagers) (completions : ℕ) :
    Steps pulls packagers :=
  (List.range completions).flatMap fun _ =>
    sendEventAsynchronous (.packagerAsync packager) (.packagerEvents packager)

/-- `doObjectPackage()`. -/
def doObjectPackage (packager : Fin packagers) : PackageRound → Steps pulls packagers
  | .skipped => []
  | .idle completions =>
      guarded (.packageItems packager) [] ++ objectSendCompletion packager completions
  | .sent completions =>
      guarded (.packageItems packager) (window (.packageItems packager) (lookUp ++ lookUp)) ++
        objectSendCompletion packager completions
  | .failed lookups =>
      guarded (.packageItems packager)
        (leftWindow (.packageItems packager) ((List.range lookups).flatMap fun _ => lookUp))

/-- `~ObjectListPackager`: the worker is joined, then the thread of the events. -/
def destroyPackager (packager : Fin packagers) : Steps pulls packagers :=
  .join (.worker packager) ::
    destroyService (.packagerAsync packager) (.packagerEvents packager)

/-! ## The events of the store and of the packagers -/

/-- What the controller does with an event of the store.  `made` is a packager that is made
on the way, and `dropped` one that is destroyed. -/
inductive StoreHandling (packagers : ℕ) where
  /-- Nothing, for an `ObjectDeleted`. -/
  | ignored
  /-- The list controller, which may have no packager yet. -/
  | listed (packager : Option (Fin packagers))
  /-- The object is not in the store any more. -/
  | missing
  /-- An object that is not the manifest. -/
  | segment (made : Option (Fin packagers)) (packager : Fin packagers)
  /-- A manifest that `update` accepts. -/
  | updated (made : Option (Fin packagers)) (packager : Fin packagers)
  /-- A manifest for which `update` answers false or throws. -/
  | refused (dropped : Option (Fin packagers))
  /-- A first manifest, of which a handler is made. -/
  | created (made : Option (Fin packagers)) (packager : Fin packagers)
  /-- A first manifest for which `makeManifestHandler` throws. -/
  | unreadable

/-- `manifestHandler()`, to get the handler or to set it. -/
def manifestHandler : Steps pulls packagers := guarded .manifestHandler []

/-- `if (!packager()) setObjectListPackager();`, and the `add` of the packager. -/
def handOn (made : Option (Fin packagers)) (packager : Fin packagers) :
    Steps pulls packagers :=
  made.elim [] (fun other => [.start (.worker other)]) ++ addItem packager

/-- `processEvent` of both controllers with an event of the store. -/
def handleStoreEvent : StoreHandling packagers → Handled pulls packagers
  | .ignored => ⟨[], true⟩
  | .listed packager => ⟨packager.elim [] addItem, true⟩
  | .missing => ⟨lookUp, false⟩
  | .segment made packager => ⟨lookUp ++ handOn made packager, true⟩
  | .updated made packager =>
      ⟨lookUp ++ lookUp ++ manifestHandler ++ manifestHandler ++ [.start .scheduledPull] ++
        handOn made packager, true⟩
  | .refused dropped =>
      ⟨lookUp ++ lookUp ++ manifestHandler ++ manifestHandler ++
        dropped.elim [] destroyPackager, true⟩
  | .created made packager =>
      ⟨lookUp ++ lookUp ++ manifestHandler ++ manifestHandler ++ handOn made packager, true⟩
  | .unreadable => ⟨lookUp ++ lookUp ++ manifestHandler, false⟩

/-- What the controller does with an `ObjectSendCompleted`. -/
inductive SentHandling where
  | missing
  | kept
  | deleted

/-- `ObjectController::processEvent` with an `ObjectSendCompleted`. -/
def handleSent : SentHandling → Handled pulls packagers
  | .missing => ⟨lookUp, false⟩
  | .kept => ⟨lookUp, true⟩
  | .deleted => ⟨lookUp ++ changeObject, true⟩

/-! ## The pull ingesters -/

/-- A round of `PullObjectIngester::doObjectIngest()`: whether it waits for items first, and
whether it then has one and stores what it fetches. -/
structure PullRound where
  waits : Bool
  fetched : Option Bool

/-- `PullObjectIngester::doObjectIngest()`. -/
def doObjectIngest (ingester : Fin pulls) (round : PullRound) : Steps pulls packagers :=
  guarded (.ingestItems ingester)
    ((if round.waits then window (.ingestItems ingester) [] else []) ++
      round.fetched.elim [] fun stores =>
        window (.ingestItems ingester) (if stores then changeObject else []))

/-- A turn of the second loop of `ObjectManifestController::workerLoop`: the ingesters that
are made, and those that get an item. -/
structure ScheduledRound (pulls : ℕ) where
  made : List (Fin pulls)
  handed : List (Fin pulls)

/-- `ObjectManifestController::workerLoop`, with the looks of the first loop. -/
def scheduledPulls (looks : ℕ) (rounds : List (ScheduledRound pulls)) :
    Steps pulls packagers :=
  (List.range looks).flatMap (fun _ => manifestHandler) ++
    rounds.flatMap fun round =>
      manifestHandler ++ round.made.flatMap (fun ingester => [.start (.pull ingester)]) ++
        round.handed.flatMap fun ingester =>
          manifestHandler ++ guarded (.ingestItems ingester) []

/-! ## The push ingester -/

/-- A callback of the HTTP daemon for a request: the first one looks up so many header fields
and has so many subscribers called, `processed` looks up the server prefix under the mutex so
many times, unless that is known, and may store an object. -/
inductive Callback where
  | started (request headers subscribers : ℕ)
  | received (request : ℕ)
  | processed (request prefixes : ℕ) (stores : Bool)
  | completed (request : ℕ)

/-- `handle_request` and `request_completion_callback`. -/
def callback : Callback → Steps pulls packagers
  | .started request headers subscribers =>
      (List.range headers).flatMap (fun _ => guarded (.request request) []) ++
        guarded .push [] ++
          sendEventSynchronous .pushAsync (List.replicate subscribers ⟨[], true⟩)
  | .received request =>
      guarded (.request request) [] ++ sendEventAsynchronous .pushAsync .pushEvents
  | .processed request prefixes stores =>
      guarded (.request request)
        ((List.range prefixes).flatMap (fun _ => guarded .push []) ++
          if stores then changeObject else [])
  | .completed request => guarded (.request request) [] ++ guarded .push []

/-- A push ingester: how often `start()` fails first, how often the constructor of the
controller looks for the daemon in vain, the callbacks of the daemon, and the subscribers that
are called for each `ObjectPushBlockReceived`. -/
structure PushServer where
  failures : ℕ
  looks : ℕ
  callbacks : List Callback
  turns : List (Turn Unit)

/-- `ObjectIngester::workerLoop` of a push ingester, which ends when `start()` has started the
daemon. -/
def PushServer.startDaemon (server : PushServer) : Steps pulls packagers :=
  (List.range server.failures).flatMap (fun _ => guarded .push []) ++
    guarded .push [.start .daemon]

/-- `getIngestServerPrefix()` in the constructor.  The last look finds the daemon, which the
worker has started when it has nothing left to do but to release the mutex. -/
def PushServer.awaitDaemon (server : PushServer) : Steps pulls packagers :=
  (List.range server.looks).flatMap (fun _ => guarded .push []) ++
    .wait .pushWorker 1 :: guarded .push []

/-- `initPushObjectIngester()`. -/
def PushServer.init (server : PushServer) : Steps pulls packagers :=
  .start .pushWorker :: (server.awaitDaemon ++ subscribe .pushAsync)

/-! ## The threads -/

/-- A controller at work: its kind, the ingester that its constructor makes or the push
ingester it has, its first packager and the one it has when it is destroyed, and what each
thread comes to do. -/
structure Pipeline (pulls packagers : ℕ) where
  streaming : Bool
  ingester : Option (Fin pulls)
  push : Option PushServer
  firstPackager : Fin packagers
  lastPackager : Option (Fin packagers)
  looks : ℕ
  scheduled : List (ScheduledRound pulls)
  storeTurns : List (Turn (StoreHandling packagers))
  pullRounds : Fin pulls → List PullRound
  packageRounds : Fin packagers → List PackageRound
  packagerTurns : Fin packagers → List (Turn SentHandling)

namespace Pipeline

variable (pipeline : Pipeline pulls packagers)

/-- `initObjectIngester()`. -/
def initObjectIngester : Steps pulls packagers :=
  pipeline.ingester.elim [] (fun ingester => [.start (.pull ingester)]) ++
    pipeline.push.elim [] PushServer.init

/-- The constructors: the list controller subscribes to the store first, the streaming
controller has its ingesters first, and is subscribed to its packager. -/
def construct : Steps pulls packagers :=
  if pipeline.streaming then
    pipeline.initObjectIngester ++ subscribe .storeAsync ++
      [.start (.worker pipeline.firstPackager)] ++
        subscribe (.packagerAsync pipeline.firstPackager) ++ [.start .scheduledPull]
  else
    subscribe .storeAsync ++ pipeline.initObjectIngester ++
      [.start (.worker pipeline.firstPackager)]

/-- The destructors up to the push ingester: `abort()` of the scheduled pulls, and the
packager. -/
def destroyFirst : Steps pulls packagers :=
  (if pipeline.streaming then [.join .scheduledPull] else []) ++
    pipeline.lastPackager.elim [] destroyPackager

/-- The destructors behind the push ingester: the pull ingesters and the store. -/
def destroyLast : Steps pulls packagers :=
  (List.finRange pulls).flatMap (fun ingester => [.join (.pull ingester)]) ++
    destroyService .storeAsync .storeEvents

/-- What the caller does before it destroys the push ingester's daemon. -/
def beforeStop : Steps pulls packagers :=
  pipeline.construct ++ pipeline.destroyFirst ++ [.join .pushWorker]

/-- What is left to do behind `MHD_stop_daemon`. -/
def afterStop : Steps pulls packagers :=
  .release .push :: (destroyService .pushAsync .pushEvents ++ destroyLast)

/-- The constructor and the destructor.  `PushObjectIngester::stop()` joins the thread of the
daemon with the mutex in hand. -/
def callerScript : Steps pulls packagers :=
  match pipeline.push with
  | none => pipeline.construct ++ pipeline.destroyFirst ++ destroyLast
  | some _ => pipeline.beforeStop ++ .acquire .push :: .join .daemon :: afterStop

/-- What each thread does. -/
def script : Thread pulls packagers → Steps pulls packagers
  | .caller => pipeline.callerScript
  | .scheduledPull => scheduledPulls pipeline.looks pipeline.scheduled
  | .storeEvents => asyncEventsLoop .storeAsync handleStoreEvent pipeline.storeTurns
  | .pull ingester => (pipeline.pullRounds ingester).flatMap (doObjectIngest ingester)
  | .worker packager => (pipeline.packageRounds packager).flatMap (doObjectPackage packager)
  | .packagerEvents packager =>
      asyncEventsLoop (.packagerAsync packager) handleSent (pipeline.packagerTurns packager)
  | .pushWorker => pipeline.push.elim [] PushServer.startDaemon
  | .daemon => pipeline.push.elim [] fun server => server.callbacks.flatMap callback
  | .pushEvents =>
      pipeline.push.elim [] fun server =>
        asyncEventsLoop .pushAsync (fun _ => ⟨[], true⟩) server.turns

/-- The caller is about to construct the controller. -/
def start : Config (Thread pulls packagers) Mutex := Config.start pipeline.script .caller

end Pipeline

end Mbstf.Threads
