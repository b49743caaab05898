import Mbstf.Controller.PackagerThreads
import Mbstf.Core.Runs
import Mbstf.Session.Controllers

/-!
# A controller and its threads

An `ObjectListController` or an `ObjectStreamingController` with its object store,
from the constructor on: the thread that constructs it, the ingesters that add
objects, the thread of the store that hands `ObjectAdded` events to the controller,
and the threads of every packager there has been.  Any of them may take the next
step.
-/

namespace Mbstf.Controller

open Std Mbstf.Objects Mbstf.Session

/-- What a controller reads from its distribution session. -/
structure Setup where
  kind : ControllerKind
  manifestUrl : String
  destIpAddr : Option String

/-- What a constructor does, apart from the checks of the distribution session. -/
inductive ConstructorStep where
  | subscribeToStore
  | initObjectIngester
  | setObjectListPackager
  | getObjectListPackager
  | subscribeToPackager
  | startWorker
  deriving DecidableEq

/-- The constructors; that of the streaming controller begins with the one of
`ObjectManifestController`, which starts the ingester.  It subscribes through a copy of the
pointer to the packager; the copy that `setObjectListPackager` returns is dropped at
once. -/
def constructorSteps : ControllerKind → List ConstructorStep
  | .objectList => [.subscribeToStore, .initObjectIngester, .setObjectListPackager]
  | .objectStreaming =>
      [.initObjectIngester, .subscribeToStore, .setObjectListPackager, .getObjectListPackager,
        .subscribeToPackager, .startWorker]

/-- Where the thread of the store's events is. -/
inductive StoreThread where
  | waiting
  /-- Behind `pop_front`, with the mutex released. -/
  | popped (event : StoreEvent)
  /-- `processEvent` was called with an event that is nothing to it. -/
  | passing
  /-- `processEvent` was called for an `ObjectAdded`. -/
  | handling (objectId : String)
  /-- The object is a manifest. -/
  | manifest (objectId : String)
  /-- At `if (!packager())`. -/
  | packaging (objectId : String)
  /-- At `setObjectListPackager()`, as there was none. -/
  | setting (objectId : String)
  /-- At `getObjectListPackager()`. -/
  | adding (objectId : String)
  /-- At `add(item)`, with a copy of the pointer to the packager. -/
  | holding (objectId : String) (index : ℕ)
  /-- In the destructor of a packager, as the thread has dropped the last pointer to it;
  with an object, at `getObjectListPackager()` next. -/
  | destroying (index : ℕ) (objectId : Option String)
  deriving DecidableEq

def StoreThread.objectIds : StoreThread → List String
  | .popped (.objectAdded objectId) => [objectId]
  | .handling objectId => [objectId]
  | .manifest objectId => [objectId]
  | .packaging objectId => [objectId]
  | .setting objectId => [objectId]
  | .adding objectId => [objectId]
  | .holding objectId _ => [objectId]
  | .destroying _ objectId => objectId.toList
  | _ => []

/-- The packager to which the thread has a pointer. -/
def StoreThread.held : StoreThread → Option ℕ
  | .holding _ index => some index
  | _ => none

/-- The packager in whose destructor the thread is. -/
def StoreThread.destroyed : StoreThread → Option ℕ
  | .destroying index _ => some index
  | _ => none

/-- The thread goes on to `getObjectListPackager()` with its object, or is done. -/
def StoreThread.onward : Option String → StoreThread
  | none => .waiting
  | some objectId => .adding objectId

/-- The thread is in `processEvent`. -/
def StoreThread.InHandler : StoreThread → Prop
  | .waiting => False
  | .popped _ => False
  | _ => True

instance : DecidablePred StoreThread.InHandler
  | .waiting => isFalse id
  | .popped _ => isFalse id
  | .passing => isTrue trivial
  | .handling _ => isTrue trivial
  | .manifest _ => isTrue trivial
  | .packaging _ => isTrue trivial
  | .setting _ => isTrue trivial
  | .adding _ => isTrue trivial
  | .holding _ _ => isTrue trivial
  | .destroying _ _ => isTrue trivial

/-- What comes of a manifest: `update` answers true or false, or
`makeManifestHandler` makes a handler or none; both may throw. -/
inductive ManifestResult where
  | accepted
  | refused
  | throws
  deriving DecidableEq

/-- What has become of the objects: added by ingesters; passed to the `add` of a
packager, at its place; reported as an invalid manifest; dropped; and ids for which a
lookup threw.  `replaced` is the packager that the constructor replaced with its own. -/
structure Books where
  added : List String
  handed : List (ℕ × String)
  invalid : List String
  lost : List String
  failed : List String
  replaced : Option ℕ

/-- The objects that were passed to packagers. -/
def Books.passed (books : Books) : List String := books.handed.map Prod.snd

/-- The objects that were passed to the packager that the constructor replaced. -/
def Books.orphaned (books : Books) : List String :=
  (books.handed.filter fun one => books.replaced = some one.1).map Prod.snd

/-- The controller with its threads.  `packagers` has every packager made so far, and the
others are places in it: `current` the controller's packager, `subscribing` the one to which
the constructor has a pointer, and `replacing` the one in whose destructor it is. -/
structure System where
  remaining : List ConstructorStep
  replacing : Option ℕ
  subscribing : Option ℕ
  ingesting : Bool
  subscribed : Bool
  objects : ObjectStore
  storeThread : StoreThread
  manifestHandler : Bool
  current : Option ℕ
  packagers : List RunningPackager
  books : Books

/-- The steps of all threads. -/
inductive Label where
  | construct
  | addObject (objectId : String) (data : ObjectData) (metadata : Metadata)
  | popEvent
  | dispatch
  | handle
  | updateManifest (result : ManifestResult)
  | checkPackager
  | setObjectListPackager
  | getObjectListPackager
  | addItem
  | resume
  | packager (index : ℕ) (label : PackagerLabel)

/-- `metadata.keepAfterSend(true)` on the metadata in the store. -/
def keepAfterSend (objects : ObjectStore) (objectId : String) : ObjectStore :=
  match objects.store[objectId]? with
  | none => objects
  | some object =>
      { objects with
        store := objects.store.insert objectId
          (object.1, { object.2 with keepAfterSend := true }) }

namespace System

/-- Before the constructor. -/
def start (setup : Setup) : System where
  remaining := constructorSteps setup.kind
  replacing := none
  subscribing := none
  ingesting := false
  subscribed := false
  objects := .new
  storeThread := .waiting
  manifestHandler := false
  current := none
  packagers := []
  books := ⟨[], [], [], [], [], none⟩

/-- The new packager of `setObjectListPackager()`. -/
def setPackager (setup : Setup) (system : System) : System :=
  { system with
    current := some system.packagers.length
    packagers := system.packagers ++ [.new setup.destIpAddr] }

def isDestroyed (system : System) (index : ℕ) : Bool :=
  (system.packagers[index]?).any fun running => running.life = .destroyed

/-- Somebody has a pointer to the packager: the controller, its constructor, or the thread of
the store. -/
def referenced (system : System) (index : ℕ) : Bool :=
  system.current = some index ∨ system.subscribing = some index ∨
    system.storeThread.held = some index

/-- The packager, if the pointer to it that was dropped was the last one. -/
def released (system : System) (dropped : Option ℕ) : Option ℕ :=
  dropped.filter fun index => !system.referenced index

/-- The next step of the constructor.  Who drops the last pointer to a packager destroys it
before he goes on.  Without a packager to subscribe to there is no step: the code follows a
null pointer. -/
def construct (setup : Setup) (system : System) : Option System :=
  match system.replacing, system.remaining with
  | some index, _ =>
      if system.isDestroyed index then some { system with replacing := none } else none
  | none, [] => none
  | none, .subscribeToStore :: rest =>
      some { system with remaining := rest, subscribed := true }
  | none, .initObjectIngester :: rest =>
      some { system with remaining := rest, ingesting := true }
  | none, .setObjectListPackager :: rest =>
      some { system.setPackager setup with
        remaining := rest
        replacing := (system.setPackager setup).released system.current
        books := { system.books with replaced := system.current } }
  | none, .getObjectListPackager :: rest =>
      system.current.map fun index =>
        { system with remaining := rest, subscribing := some index }
  | none, .subscribeToPackager :: rest =>
      match system.subscribing with
      | none => none
      | some index =>
          (system.packagers[index]?).map fun running =>
            { system with
              remaining := rest
              replacing := { system with subscribing := none }.released (some index)
              subscribing := none
              packagers := system.packagers.set index { running with subscribed := true } }
  | none, .startWorker :: rest => some { system with remaining := rest }

/-- `ObjectStore::addObject` by an ingester. -/
def addObject (system : System) (objectId : String) (data : ObjectData) (metadata : Metadata) :
    Option System :=
  if system.ingesting then
    some { system with
      objects := system.objects.addObject objectId data metadata
      books := { system.books with added := system.books.added ++ [objectId] } }
  else none

/-- The thread of the store takes the next event, in `asyncEventsLoop`. -/
def popEvent (system : System) : Option System :=
  match system.storeThread, system.objects.events with
  | .waiting, event :: rest =>
      some { system with
        objects := { system.objects with events := rest }
        storeThread := .popped event }
  | _, _ => none

/-- The event of an object is done with, and the object was not handed on. -/
def drop (system : System) (objectId : String) : System :=
  { system with
    storeThread := .waiting
    books := { system.books with lost := system.books.lost ++ [objectId] } }

/-- The event in hand goes to the subscribers there are, in `sendEventSynchronous`. -/
def dispatch (system : System) : Option System :=
  match system.storeThread with
  | .popped (.objectAdded objectId) =>
      if system.subscribed then some { system with storeThread := .handling objectId }
      else some (system.drop objectId)
  | .popped (.objectDeleted _) =>
      some { system with storeThread := if system.subscribed then .passing else .waiting }
  | _ => none

/-- A lookup of the handler threw. -/
def dropFailed (system : System) (objectId : String) : System :=
  { system with
    storeThread := .waiting
    books := { system.books with
      lost := system.books.lost ++ [objectId]
      failed := system.books.failed ++ [objectId] } }

/-- `check_if_object_added_is_manifest`. -/
def checkManifest (setup : Setup) (system : System) (objectId : String) : System :=
  match system.objects.getMetadata objectId with
  | .error _ => system.dropFailed objectId
  | .ok metadata =>
      if metadata.originalUrl = setup.manifestUrl ∨ metadata.fetchedUrl = setup.manifestUrl then
        { system with
          objects := keepAfterSend system.objects objectId
          storeThread := .manifest objectId }
      else { system with storeThread := .packaging objectId }

/-- `processEvent` with an event: in the list controller, up to the copy of the pointer to
the packager, without which the object is dropped; in the streaming controller, the check
for a manifest. -/
def handle (setup : Setup) (system : System) : Option System :=
  match system.storeThread, setup.kind with
  | .passing, _ => some { system with storeThread := .waiting }
  | .handling objectId, .objectList =>
      match system.current with
      | none => some (system.drop objectId)
      | some index => some { system with storeThread := .holding objectId index }
  | .handling objectId, .objectStreaming => some (system.checkManifest setup objectId)
  | _, _ => none

/-- A manifest was found invalid. -/
def rejectManifest (system : System) (objectId : String) : System :=
  { system with
    storeThread := .waiting
    books := { system.books with invalid := system.books.invalid ++ [objectId] } }

/-- Where the thread of the store goes when it has dropped a pointer to a packager. -/
def leaving (system : System) (dropped : Option ℕ) (objectId : Option String) : StoreThread :=
  match system.released dropped with
  | none => .onward objectId
  | some index => .destroying index objectId

/-- `unsetObjectListPackager()` after a bad update. -/
def unsetPackager (system : System) : System :=
  { system with
    current := none
    storeThread := { system with current := none }.leaving system.current none }

/-- A manifest goes to the manifest handler, or a manifest handler is made of it. -/
def updateManifest (system : System) (result : ManifestResult) : Option System :=
  match system.storeThread with
  | .manifest objectId =>
      match system.objects.at? objectId, system.manifestHandler, result with
      | .error _, _, _ => some (system.dropFailed objectId)
      | .ok _, true, .accepted => some { system with storeThread := .packaging objectId }
      | .ok _, true, _ => some (system.rejectManifest objectId).unsetPackager
      | .ok _, false, .accepted =>
          some { system with storeThread := .packaging objectId, manifestHandler := true }
      | .ok _, false, .refused => some { system with storeThread := .packaging objectId }
      | .ok _, false, .throws => some (system.rejectManifest objectId)
  | _ => none

/-- `if (!packager())`. -/
def checkPackager (system : System) : Option System :=
  match system.storeThread with
  | .packaging objectId =>
      some { system with
        storeThread := if system.current.isNone then .setting objectId else .adding objectId }
  | _ => none

/-- `setObjectListPackager();` in the handler.  The constructor may have set a packager since
the test. -/
def setObjectListPackager (setup : Setup) (system : System) : Option System :=
  match system.storeThread with
  | .setting objectId =>
      some { system.setPackager setup with
        storeThread := (system.setPackager setup).leaving system.current (some objectId) }
  | _ => none

/-- `getObjectListPackager()`; the code follows the pointer whether or not it is null. -/
def getObjectListPackager (system : System) : Option System :=
  match system.storeThread with
  | .adding objectId =>
      system.current.map fun index => { system with storeThread := .holding objectId index }
  | _ => none

/-- `add(item);`, and the copy of the pointer is dropped. -/
def addItem (system : System) : Option System :=
  match system.storeThread with
  | .holding objectId index =>
      (system.packagers[index]?).map fun running =>
        { system with
          storeThread := { system with storeThread := .waiting }.leaving (some index) none
          packagers := system.packagers.set index (running.add objectId)
          books := { system.books with
            handed := system.books.handed ++ [(index, objectId)] } }
  | _ => none

/-- The thread of the store goes on when the packager is destroyed. -/
def resume (system : System) : Option System :=
  match system.storeThread with
  | .destroying index objectId =>
      if system.isDestroyed index then some { system with storeThread := .onward objectId }
      else none
  | _ => none

/-- Somebody is in the destructor of a packager. -/
def abandoned (system : System) (index : ℕ) : Bool :=
  system.storeThread.destroyed = some index ∨ system.replacing = some index

/-- A step of a packager. -/
def packagerStep (system : System) (index : ℕ) (label : PackagerLabel) : Option System :=
  match system.packagers[index]? with
  | none => none
  | some running =>
      (running.turn (system.abandoned index) system.objects label).map fun turn =>
        { system with
          objects := turn.objects
          packagers := system.packagers.set index turn.running
          books := { system.books with failed := system.books.failed ++ turn.failed } }

/-- One step of one thread. -/
def step (setup : Setup) (system : System) : Label → Option System
  | .construct => system.construct setup
  | .addObject objectId data metadata => system.addObject objectId data metadata
  | .popEvent => system.popEvent
  | .dispatch => system.dispatch
  | .handle => system.handle setup
  | .updateManifest result => system.updateManifest result
  | .checkPackager => system.checkPackager
  | .setObjectListPackager => system.setObjectListPackager setup
  | .getObjectListPackager => system.getObjectListPackager
  | .addItem => system.addItem
  | .resume => system.resume
  | .packager index label => system.packagerStep index label

/-! ## The steps there are -/

theorem mem_of_at? {objects : ObjectStore} {objectId : String} {object : ObjectData × Metadata}
    (hlookup : objects.at? objectId = .ok object) : objectId ∈ objects.store := by
  rw [ExtTreeMap.mem_iff_isSome_getElem?]
  unfold ObjectStore.at? at hlookup
  cases hfound : objects.store[objectId]? with
  | some object => rfl
  | none =>
      rw [hfound] at hlookup
      cases hlookup

theorem mem_of_getMetadata {objects : ObjectStore} {objectId : String} {metadata : Metadata}
    (hlookup : objects.getMetadata objectId = .ok metadata) : objectId ∈ objects.store := by
  unfold ObjectStore.getMetadata at hlookup
  cases hfound : objects.at? objectId with
  | error exception =>
      rw [hfound] at hlookup
      cases hlookup
  | ok object => exact mem_of_at? hfound

theorem getMetadata_error {objects : ObjectStore} {objectId : String} {exception : OutOfRange}
    (herror : objects.getMetadata objectId = .error exception) :
    objectId ∉ objects.store := by
  unfold ObjectStore.getMetadata at herror
  cases hfound : objects.at? objectId with
  | error exception => exact RunningPackager.at?_error hfound
  | ok object =>
      rw [hfound] at herror
      cases herror

/-- The steps there are: what each finds, and what it leaves. -/
inductive Taken (setup : Setup) (system : System) : Label → System → Prop where
  | replaced {index : ℕ} (hreplacing : system.replacing = some index) :
      Taken setup system .construct { system with replacing := none }
  | subscribeToStore {rest : List ConstructorStep}
      (hremaining : system.remaining = .subscribeToStore :: rest) :
      Taken setup system .construct { system with remaining := rest, subscribed := true }
  | initObjectIngester {rest : List ConstructorStep}
      (hremaining : system.remaining = .initObjectIngester :: rest) :
      Taken setup system .construct { system with remaining := rest, ingesting := true }
  | setOwnPackager (hreplacing : system.replacing = none) {rest : List ConstructorStep}
      (hremaining : system.remaining = .setObjectListPackager :: rest) :
      Taken setup system .construct { system.setPackager setup with
        remaining := rest
        replacing := (system.setPackager setup).released system.current
        books := { system.books with replaced := system.current } }
  | getOwnPackager {rest : List ConstructorStep}
      (hremaining : system.remaining = .getObjectListPackager :: rest) {index : ℕ}
      (hcurrent : system.current = some index) :
      Taken setup system .construct
        { system with remaining := rest, subscribing := some index }
  | subscribeToPackager {rest : List ConstructorStep}
      (hremaining : system.remaining = .subscribeToPackager :: rest) {index : ℕ}
      (hsubscribing : system.subscribing = some index) {running : RunningPackager}
      (hrunning : system.packagers[index]? = some running) (hreplacing : system.replacing = none) :
      Taken setup system .construct { system with
        remaining := rest
        replacing := { system with subscribing := none }.released (some index)
        subscribing := none
        packagers := system.packagers.set index { running with subscribed := true } }
  | startWorker {rest : List ConstructorStep}
      (hremaining : system.remaining = .startWorker :: rest) :
      Taken setup system .construct { system with remaining := rest }
  | addObject (objectId : String) (data : ObjectData) (metadata : Metadata)
      (hingesting : system.ingesting = true) :
      Taken setup system (.addObject objectId data metadata) { system with
        objects := system.objects.addObject objectId data metadata
        books := { system.books with added := system.books.added ++ [objectId] } }
  | popped {event : StoreEvent} {rest : List StoreEvent}
      (hthread : system.storeThread = .waiting) (hevents : system.objects.events = event :: rest) :
      Taken setup system .popEvent { system with
        objects := { system.objects with events := rest }
        storeThread := .popped event }
  | dispatched {objectId : String}
      (hthread : system.storeThread = .popped (.objectAdded objectId))
      (hsubscribed : system.subscribed = true) :
      Taken setup system .dispatch { system with storeThread := .handling objectId }
  | unheard {objectId : String} (hthread : system.storeThread = .popped (.objectAdded objectId))
      (hsubscribed : ¬ system.subscribed = true) :
      Taken setup system .dispatch (system.drop objectId)
  | deletion {objectId : String}
      (hthread : system.storeThread = .popped (.objectDeleted objectId)) :
      Taken setup system .dispatch
        { system with storeThread := if system.subscribed then .passing else .waiting }
  | passed (hthread : system.storeThread = .passing) :
      Taken setup system .handle { system with storeThread := .waiting }
  | drop {objectId : String} (hthread : system.storeThread = .handling objectId)
      (hkind : setup.kind = .objectList) (hcurrent : system.current = none) :
      Taken setup system .handle (system.drop objectId)
  | handlePackager {objectId : String} (hthread : system.storeThread = .handling objectId)
      (hkind : setup.kind = .objectList) {index : ℕ} (hcurrent : system.current = some index) :
      Taken setup system .handle { system with storeThread := .holding objectId index }
  | checkFailed {objectId : String} (hthread : system.storeThread = .handling objectId)
      (hkind : setup.kind = .objectStreaming) (habsent : objectId ∉ system.objects.store) :
      Taken setup system .handle (system.dropFailed objectId)
  | manifest {objectId : String} (hthread : system.storeThread = .handling objectId)
      (hkind : setup.kind = .objectStreaming) (hmem : objectId ∈ system.objects.store) :
      Taken setup system .handle { system with
        objects := keepAfterSend system.objects objectId
        storeThread := .manifest objectId }
  | noManifest {objectId : String} (hthread : system.storeThread = .handling objectId)
      (hkind : setup.kind = .objectStreaming) (hmem : objectId ∈ system.objects.store) :
      Taken setup system .handle { system with storeThread := .packaging objectId }
  | updateFailed {objectId : String} {result : ManifestResult}
      (hthread : system.storeThread = .manifest objectId)
      (habsent : objectId ∉ system.objects.store) :
      Taken setup system (.updateManifest result) (system.dropFailed objectId)
  | updated {objectId : String} {result : ManifestResult} (manifestHandler : Bool)
      (hthread : system.storeThread = .manifest objectId)
      (hmem : objectId ∈ system.objects.store) :
      Taken setup system (.updateManifest result) { system with
        storeThread := .packaging objectId
        manifestHandler := manifestHandler }
  | rejected {objectId : String} {result : ManifestResult}
      (hthread : system.storeThread = .manifest objectId)
      (hmem : objectId ∈ system.objects.store) :
      Taken setup system (.updateManifest result) (system.rejectManifest objectId)
  | unset {objectId : String} {result : ManifestResult}
      (hthread : system.storeThread = .manifest objectId)
      (hmem : objectId ∈ system.objects.store) :
      Taken setup system (.updateManifest result)
        (system.rejectManifest objectId).unsetPackager
  | checkPackager {objectId : String} (hthread : system.storeThread = .packaging objectId) :
      Taken setup system .checkPackager { system with
        storeThread := if system.current.isNone then .setting objectId else .adding objectId }
  | setObjectListPackager {objectId : String} (hthread : system.storeThread = .setting objectId) :
      Taken setup system .setObjectListPackager { system.setPackager setup with
        storeThread := (system.setPackager setup).leaving system.current (some objectId) }
  | getObjectListPackager {objectId : String} (hthread : system.storeThread = .adding objectId)
      {index : ℕ} (hcurrent : system.current = some index) :
      Taken setup system .getObjectListPackager
        { system with storeThread := .holding objectId index }
  | addItem {objectId : String} {index : ℕ}
      (hthread : system.storeThread = .holding objectId index) {running : RunningPackager}
      (hrunning : system.packagers[index]? = some running) :
      Taken setup system .addItem { system with
        storeThread := { system with storeThread := .waiting }.leaving (some index) none
        packagers := system.packagers.set index (running.add objectId)
        books := { system.books with
          handed := system.books.handed ++ [(index, objectId)] } }
  | resume {index : ℕ} {objectId : Option String}
      (hthread : system.storeThread = .destroying index objectId) :
      Taken setup system .resume { system with storeThread := .onward objectId }
  | packager {index : ℕ} {running : RunningPackager}
      (hrunning : system.packagers[index]? = some running) {label : PackagerLabel} {turn : Turn}
      (hturn : running.turn (system.abandoned index) system.objects label = some turn) :
      Taken setup system (.packager index label) { system with
        objects := turn.objects
        packagers := system.packagers.set index turn.running
        books := { system.books with failed := system.books.failed ++ turn.failed } }

variable {setup : Setup} {system next : System}

theorem taken_construct (hstep : system.construct setup = some next) :
    Taken setup system .construct next := by
  unfold construct at hstep
  split at hstep
  case h_1 index _ hreplacing =>
      obtain ⟨_, hnext⟩ := Option.ite_none_right_eq_some.mp hstep
      exact Option.some.inj hnext ▸ .replaced hreplacing
  case h_2 => cases hstep
  case h_3 hremaining => exact Option.some.inj hstep ▸ .subscribeToStore hremaining
  case h_4 hremaining => exact Option.some.inj hstep ▸ .initObjectIngester hremaining
  case h_5 hreplacing hremaining =>
      exact Option.some.inj hstep ▸ .setOwnPackager hreplacing hremaining
  case h_6 hremaining =>
      obtain ⟨index, hcurrent, hnext⟩ := Option.map_eq_some_iff.mp hstep
      exact hnext ▸ .getOwnPackager hremaining hcurrent
  case h_7 hreplacing hremaining =>
      split at hstep
      case h_1 => cases hstep
      case h_2 index hsubscribing =>
          obtain ⟨running, hrunning, hnext⟩ := Option.map_eq_some_iff.mp hstep
          exact hnext ▸ .subscribeToPackager hremaining hsubscribing hrunning hreplacing
  case h_8 hremaining => exact Option.some.inj hstep ▸ .startWorker hremaining

theorem taken_popEvent (hstep : system.popEvent = some next) :
    Taken setup system .popEvent next := by
  unfold popEvent at hstep
  split at hstep
  case h_1 hthread hevents => exact Option.some.inj hstep ▸ .popped hthread hevents
  case h_2 => cases hstep

theorem taken_dispatch (hstep : system.dispatch = some next) :
    Taken setup system .dispatch next := by
  unfold dispatch at hstep
  split at hstep
  case h_1 hthread =>
      split at hstep
      case isTrue hsubscribed => exact Option.some.inj hstep ▸ .dispatched hthread hsubscribed
      case isFalse hnot => exact Option.some.inj hstep ▸ .unheard hthread hnot
  case h_2 hthread => exact Option.some.inj hstep ▸ .deletion hthread
  case h_3 => cases hstep

theorem taken_checkManifest {objectId : String} (hthread : system.storeThread = .handling objectId)
    (hkind : setup.kind = .objectStreaming) :
    Taken setup system .handle (system.checkManifest setup objectId) := by
  unfold checkManifest
  split
  case h_1 hlookup => exact .checkFailed hthread hkind (getMetadata_error hlookup)
  case h_2 hlookup =>
      have hmem := mem_of_getMetadata hlookup
      split
      · exact .manifest hthread hkind hmem
      · exact .noManifest hthread hkind hmem

theorem taken_handle (hstep : system.handle setup = some next) :
    Taken setup system .handle next := by
  unfold handle at hstep
  split at hstep
  case h_1 hthread => exact Option.some.inj hstep ▸ .passed hthread
  case h_2 hthread hkind =>
      split at hstep
      case h_1 hcurrent => exact Option.some.inj hstep ▸ .drop hthread hkind hcurrent
      case h_2 index hcurrent =>
          exact Option.some.inj hstep ▸ .handlePackager hthread hkind hcurrent
  case h_3 hthread hkind => exact Option.some.inj hstep ▸ taken_checkManifest hthread hkind
  case h_4 => cases hstep

theorem taken_updateManifest {result : ManifestResult}
    (hstep : system.updateManifest result = some next) :
    Taken setup system (.updateManifest result) next := by
  unfold updateManifest at hstep
  split at hstep
  case h_1 objectId hthread =>
      split at hstep
      case h_1 hlookup =>
          exact Option.some.inj hstep ▸ .updateFailed hthread (RunningPackager.at?_error hlookup)
      case h_2 hlookup _ =>
          exact Option.some.inj hstep ▸ .updated system.manifestHandler hthread (mem_of_at? hlookup)
      case h_3 hlookup _ _ =>
          exact Option.some.inj hstep ▸ .unset hthread (mem_of_at? hlookup)
      case h_4 hlookup _ =>
          exact Option.some.inj hstep ▸ .updated true hthread (mem_of_at? hlookup)
      case h_5 hlookup _ =>
          exact Option.some.inj hstep ▸ .updated system.manifestHandler hthread (mem_of_at? hlookup)
      case h_6 hlookup _ =>
          exact Option.some.inj hstep ▸ .rejected hthread (mem_of_at? hlookup)
  case h_2 => cases hstep

/-- A step is one of those there are. -/
theorem step_taken {label : Label} (hstep : step setup system label = some next) :
    Taken setup system label next := by
  cases label with
  | construct => exact taken_construct hstep
  | addObject objectId data metadata =>
      obtain ⟨hingesting, hnext⟩ := Option.ite_none_right_eq_some.mp hstep
      exact Option.some.inj hnext ▸ .addObject objectId data metadata hingesting
  | popEvent => exact taken_popEvent hstep
  | dispatch => exact taken_dispatch hstep
  | handle => exact taken_handle hstep
  | updateManifest result => exact taken_updateManifest hstep
  | checkPackager =>
      simp only [step, System.checkPackager] at hstep
      split at hstep
      case h_1 hthread => exact Option.some.inj hstep ▸ .checkPackager hthread
      case h_2 => cases hstep
  | setObjectListPackager =>
      simp only [step, System.setObjectListPackager] at hstep
      split at hstep
      case h_1 hthread => exact Option.some.inj hstep ▸ .setObjectListPackager hthread
      case h_2 => cases hstep
  | getObjectListPackager =>
      simp only [step, System.getObjectListPackager] at hstep
      split at hstep
      case h_1 hthread =>
          obtain ⟨index, hcurrent, hnext⟩ := Option.map_eq_some_iff.mp hstep
          exact hnext ▸ .getObjectListPackager hthread hcurrent
      case h_2 => cases hstep
  | addItem =>
      simp only [step, addItem] at hstep
      split at hstep
      case h_1 hthread =>
          obtain ⟨running, hrunning, hnext⟩ := Option.map_eq_some_iff.mp hstep
          exact hnext ▸ .addItem hthread hrunning
      case h_2 => cases hstep
  | resume =>
      simp only [step, resume] at hstep
      split at hstep
      case h_1 hthread =>
          obtain ⟨_, hnext⟩ := Option.ite_none_right_eq_some.mp hstep
          exact Option.some.inj hnext ▸ .resume hthread
      case h_2 => cases hstep
  | packager index packagerLabel =>
      simp only [step, packagerStep] at hstep
      split at hstep
      case h_1 => cases hstep
      case h_2 running hrunning =>
          obtain ⟨turn, hturn, hnext⟩ := Option.map_eq_some_iff.mp hstep
          exact hnext ▸ .packager hrunning hturn

/-! ## Pointers that are dropped -/

theorem released_eq_some {dropped : Option ℕ} {index : ℕ} :
    system.released dropped = some index ↔
      dropped = some index ∧ system.referenced index = false := by
  rw [released, Option.filter_eq_some_iff, Bool.not_eq_true']

/-- The thread goes on, unless the pointer that it dropped was the last one. -/
theorem leaving_cases (system : System) (dropped : Option ℕ) (objectId : Option String) :
    system.leaving dropped objectId = .onward objectId ∨
      ∃ index, system.leaving dropped objectId = .destroying index objectId ∧
        dropped = some index ∧ system.referenced index = false := by
  unfold leaving
  split
  case h_1 => exact .inl rfl
  case h_2 index hreleased => exact .inr ⟨index, rfl, released_eq_some.mp hreleased⟩

/-- With the controller's own pointer left, the packager stays. -/
theorem leaving_of_current {index : ℕ} (hcurrent : system.current = some index)
    (objectId : Option String) : system.leaving (some index) objectId = .onward objectId := by
  obtain hleaving | ⟨other, -, hdropped, hnone⟩ := system.leaving_cases (some index) objectId
  · exact hleaving
  · obtain rfl := Option.some.inj hdropped
    simp [referenced, hcurrent] at hnone

@[simp]
theorem objectIds_onward (objectId : Option String) :
    (StoreThread.onward objectId).objectIds = objectId.toList := by
  cases objectId with
  | none => rfl
  | some objectId => rfl

@[simp]
theorem objectIds_leaving (system : System) (dropped : Option ℕ) (objectId : Option String) :
    (system.leaving dropped objectId).objectIds = objectId.toList := by
  obtain hleaving | ⟨index, hleaving, -⟩ := system.leaving_cases dropped objectId
  · rw [hleaving, objectIds_onward]
  · rw [hleaving]
    rfl

@[simp]
theorem held_onward (objectId : Option String) : (StoreThread.onward objectId).held = none := by
  cases objectId with
  | none => rfl
  | some objectId => rfl

@[simp]
theorem held_leaving (system : System) (dropped : Option ℕ) (objectId : Option String) :
    (system.leaving dropped objectId).held = none := by
  obtain hleaving | ⟨index, hleaving, -⟩ := system.leaving_cases dropped objectId
  · rw [hleaving, held_onward]
  · rw [hleaving]
    rfl

@[simp]
theorem destroyed_onward (objectId : Option String) :
    (StoreThread.onward objectId).destroyed = none := by
  cases objectId with
  | none => rfl
  | some objectId => rfl

@[simp]
theorem destroyed_leaving (system : System) (dropped : Option ℕ) (objectId : Option String) :
    (system.leaving dropped objectId).destroyed = system.released dropped := by
  unfold leaving
  split
  case h_1 hnone => rw [destroyed_onward, hnone]
  case h_2 index hreleased => rw [hreleased]; rfl

theorem referenced_congr (hcurrent : next.current = system.current)
    (hsubscribing : next.subscribing = system.subscribing)
    (hheld : next.storeThread.held = system.storeThread.held) (index : ℕ) :
    next.referenced index = system.referenced index := by
  rw [referenced, referenced, hcurrent, hsubscribing, hheld]

theorem referenced_iff {index : ℕ} :
    system.referenced index = true ↔ system.current = some index ∨
      system.subscribing = some index ∨ system.storeThread.held = some index :=
  decide_eq_true_iff

theorem abandoned_iff {index : ℕ} :
    system.abandoned index = true ↔
      system.storeThread.destroyed = some index ∨ system.replacing = some index :=
  decide_eq_true_iff

/-- The constructor takes its steps in their order. -/
theorem step_remaining {label : Label} (hstep : step setup system label = some next) :
    next.remaining <:+ system.remaining := by
  have hrest : ∀ {first : ConstructorStep} {rest : List ConstructorStep},
      system.remaining = first :: rest → rest <:+ system.remaining :=
    fun hremaining => hremaining ▸ List.suffix_cons _ _
  cases step_taken hstep with
  | subscribeToStore hremaining => exact hrest hremaining
  | initObjectIngester hremaining => exact hrest hremaining
  | setOwnPackager _ hremaining => exact hrest hremaining
  | getOwnPackager hremaining => exact hrest hremaining
  | subscribeToPackager hremaining => exact hrest hremaining
  | startWorker hremaining => exact hrest hremaining
  | _ => exact List.suffix_rfl

/-- The steps that the thread of the store takes in `processEvent`. -/
def InProcessEvent : Label → Prop
  | .handle => True
  | .updateManifest _ => True
  | .checkPackager => True
  | .setObjectListPackager => True
  | .getObjectListPackager => True
  | .addItem => True
  | .resume => True
  | _ => False

theorem inHandler_of_step {label : Label} (hstep : step setup system label = some next)
    (hlabel : InProcessEvent label) : system.storeThread.InHandler := by
  have hinside : ∀ {thread : StoreThread}, system.storeThread = thread → thread.InHandler →
      system.storeThread.InHandler := fun hthread hinside => hthread ▸ hinside
  cases step_taken hstep with
  | passed hthread => exact hinside hthread trivial
  | drop hthread => exact hinside hthread trivial
  | handlePackager hthread => exact hinside hthread trivial
  | checkFailed hthread => exact hinside hthread trivial
  | manifest hthread => exact hinside hthread trivial
  | noManifest hthread => exact hinside hthread trivial
  | updateFailed hthread => exact hinside hthread trivial
  | updated _ hthread => exact hinside hthread trivial
  | rejected hthread => exact hinside hthread trivial
  | unset hthread => exact hinside hthread trivial
  | checkPackager hthread => exact hinside hthread trivial
  | setObjectListPackager hthread => exact hinside hthread trivial
  | getObjectListPackager hthread => exact hinside hthread trivial
  | addItem hthread => exact hinside hthread trivial
  | resume hthread => exact hinside hthread trivial
  | _ => exact hlabel.elim

/-! ## Where the packagers come from -/

/-- Where a packager comes from that is there after a step. -/
inductive Origin (setup : Setup) (system next : System) (label : Label) :
    RunningPackager → Prop where
  | same {running : RunningPackager} (hmem : running ∈ system.packagers) :
      Origin setup system next label running
  | new : Origin setup system next label (.new setup.destIpAddr)
  | subscribed {running : RunningPackager} (hmem : running ∈ system.packagers)
      (hremaining : system.remaining = .subscribeToPackager :: next.remaining) :
      Origin setup system next label { running with subscribed := true }
  | added {running : RunningPackager} (hmem : running ∈ system.packagers) (objectId : String) :
      Origin setup system next label (running.add objectId)
  | turned {index : ℕ} {running : RunningPackager} {packagerLabel : PackagerLabel}
      {turn : Turn} (hlabel : label = .packager index packagerLabel)
      (hrunning : system.packagers[index]? = some running)
      (hturn : running.turn (system.abandoned index) system.objects packagerLabel = some turn) :
      Origin setup system next label turn.running

/-- What a step can do with the packagers. -/
theorem step_origin {label : Label} (hstep : step setup system label = some next)
    {running : RunningPackager} (hrunning : running ∈ next.packagers) :
    Origin setup system next label running := by
  have hset : running ∈ (system.setPackager setup).packagers →
      Origin setup system next label running := by
    intro hmem
    cases List.mem_append.mp hmem with
    | inl hold => exact .same hold
    | inr hnew => exact List.mem_singleton.mp hnew ▸ .new
  cases step_taken hstep with
  | setOwnPackager => exact hset hrunning
  | setObjectListPackager => exact hset hrunning
  | @addItem objectId _ _ _ hold =>
      cases List.mem_or_eq_of_mem_set hrunning with
      | inl hmem => exact .same hmem
      | inr hadded =>
          subst hadded
          exact .added (List.mem_of_getElem? hold) objectId
  | subscribeToPackager hremaining _ hold =>
      cases List.mem_or_eq_of_mem_set hrunning with
      | inl hmem => exact .same hmem
      | inr hsubscribed =>
          subst hsubscribed
          exact .subscribed (List.mem_of_getElem? hold) hremaining
  | packager hold hturn =>
      cases List.mem_or_eq_of_mem_set hrunning with
      | inl hmem => exact .same hmem
      | inr hturned =>
          subst hturned
          exact .turned rfl hold hturn
  | _ => exact .same hrunning

end System

end Mbstf.Controller
