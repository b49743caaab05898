import Mbstf.Core.DeadlineOrder
import Mbstf.Core.Runs
import Mbstf.Objects.Store

/-!
# The list packager

`ObjectListPackager` has a list of items, kept in deadline order, that any
thread may add to, and a worker thread that runs rounds of `doObjectPackage`.
A round reads the front item under the mutex, releases the mutex to look the
object up and hand it to the FLUTE transmitter, takes the mutex again to pop the
front of the list, and then runs completions.  An `add` may therefore land
between the reading of the front and the popping of it.

The transmitter is not part of the repository: the labels say which transmission
object identifier a `send` returns, or that it throws, and which completions one
`run_one` delivers.
-/

namespace Mbstf.Objects

/-- `ObjectListPackager::PackageItem`. -/
structure PackageItem where
  objectId : String
  deadline : Option TimePoint
  deriving DecidableEq

/-- The comparison of `sortListByPolicy`. -/
abbrev PackageItem.before (left right : PackageItem) : Bool :=
  DeadlineOrder.before PackageItem.deadline left right

/-- `sortListByPolicy()`. -/
def sortListByPolicy (packageItems : List PackageItem) : List PackageItem :=
  DeadlineOrder.sort PackageItem.deadline packageItems

/-- The arguments of one `Transmitter::send`. -/
structure SendRequest where
  location : String
  contentType : String
  expires : ℕ
  data : ObjectData
  deriving DecidableEq

/-- The location sent: the fetched URL, with the ingest base URL replaced by the
distribution base URL when both are set and the former is a prefix. -/
def sendLocation (metadata : Metadata) : String :=
  let ingestBase := metadata.objIngestBaseUrl.getD ""
  let distributionBase := metadata.objDistributionBaseUrl.getD ""
  if ingestBase ≠ "" ∧ distributionBase ≠ "" ∧
      ingestBase.toList <+: metadata.fetchedUrl.toList then
    distributionBase ++ String.ofList (metadata.fetchedUrl.toList.drop ingestBase.length)
  else metadata.fetchedUrl

/-- The expiry sent, in seconds of the NTP era as an unsigned 64-bit number:
that of the cache, or a minute from the transmitter's own clock. -/
def sendExpires (metadata : Metadata) (secondsSinceEpoch : ℕ) : ℕ :=
  match metadata.cacheExpires with
  | some expires => ((expires.tdiv 1000000000 + 2208988800) % 2 ^ 64).toNat
  | none => (secondsSinceEpoch + 60) % 2 ^ 64

def sendRequest (object : Object) (secondsSinceEpoch : ℕ) : SendRequest where
  location := sendLocation object.2
  contentType := object.2.mediaType
  expires := sendExpires object.2 secondsSinceEpoch
  data := object.1

/-- Where the worker is in `doObjectPackage`. -/
inductive WorkerPoint where
  /-- Before a round, or at its start. -/
  | roundStart
  /-- The mutex is released and `item` refers to this element of the list. -/
  | picked (item : PackageItem)
  /-- `send` has returned and the mutex is still released. -/
  | sent (item : PackageItem)
  /-- At `m_io.run_one()`. -/
  | completing
  deriving DecidableEq

/-- What `Transmitter::send` does. -/
inductive SendOutcome where
  | accepted (toi : ℕ)
  | throws
  deriving DecidableEq

/-- The state of a packager and of its worker; `completed` is the queue of the
`ObjectSendCompleted` events it has sent, `requests` what it handed to the
transmitter. -/
structure Packager where
  destIpAddr : Option String
  hasTransmitter : Bool
  packageItems : List PackageItem
  worker : WorkerPoint
  queued : Bool
  queuedToi : ℕ
  queuedObjectId : String
  requests : List SendRequest
  completed : List String

namespace Packager

/-- `ObjectListPackager(ObjectStore&, ObjectController&, std::list<PackageItem>, …)`. -/
def new (destIpAddr : Option String) (packageItems : List PackageItem) : Packager where
  destIpAddr := destIpAddr
  hasTransmitter := false
  packageItems := sortListByPolicy packageItems
  worker := .roundStart
  queued := false
  queuedToi := 0
  queuedObjectId := ""
  requests := []
  completed := []

/-- `add(const PackageItem&)` and `add(PackageItem&&)`. -/
def add (packager : Packager) (item : PackageItem) : Packager :=
  { packager with packageItems := sortListByPolicy (packager.packageItems ++ [item]) }

/-- The start of a round, up to the release of the mutex.  A transmitter whose
constructor throws ends the round. -/
def beginRound (packager : Packager) (transmitterThrows : Bool) : Packager :=
  if packager.destIpAddr.isNone then packager
  else if !packager.hasTransmitter && transmitterThrows then packager
  else
    match packager.packageItems with
    | item :: _ =>
        if packager.queued then
          { packager with hasTransmitter := true, worker := .completing }
        else { packager with hasTransmitter := true, worker := .picked item }
    | [] => { packager with hasTransmitter := true, worker := .completing }

/-- The store lookups and the call of `send`.  An exception ends the round: one
of a lookup before `m_queued` is set, one of `send` after it.  The unlocking of a
mutex that is not held, which goes with it, changes none of these fields. -/
def send (packager : Packager) (item : PackageItem) (object : Except OutOfRange Object)
    (secondsSinceEpoch : ℕ) (outcome : SendOutcome) : Packager :=
  match object with
  | .error _ => { packager with queuedObjectId := item.objectId, worker := .roundStart }
  | .ok object =>
      match outcome with
      | .throws =>
          { packager with
            queuedObjectId := item.objectId, queued := true, worker := .roundStart }
      | .accepted toi =>
          { packager with
            queuedObjectId := item.objectId, queued := true, queuedToi := toi
            requests := packager.requests ++ [sendRequest object secondsSinceEpoch]
            worker := .sent item }

/-- `m_packageItems.pop_front()`, under the mutex again. -/
def popFront (packager : Packager) : Packager :=
  { packager with packageItems := packager.packageItems.tail, worker := .completing }

/-- The completion callback. -/
def onCompletion (packager : Packager) (toi : ℕ) : Packager :=
  if packager.queuedToi = toi then
    { packager with
      queued := false, completed := packager.completed ++ [packager.queuedObjectId] }
  else packager

/-- `m_io.run_one()`, delivering some completions. -/
def runOne (packager : Packager) (tois : List ℕ) : Packager :=
  { tois.foldl onCompletion packager with worker := .roundStart }

/-- The steps of the worker and of the threads that add. -/
inductive Label where
  | add (item : PackageItem)
  | beginRound (transmitterThrows : Bool)
  | send (object : Except OutOfRange Object) (secondsSinceEpoch : ℕ) (outcome : SendOutcome)
  | popFront
  | runOne (tois : List ℕ)

/-- One step: an `add` lands whenever the mutex is free, and each step of the
worker at its own point of the round. -/
def step (packager : Packager) : Label → Option Packager
  | .add item => some (packager.add item)
  | .beginRound transmitterThrows =>
      if packager.worker = .roundStart then some (packager.beginRound transmitterThrows)
      else none
  | .send object secondsSinceEpoch outcome =>
      match packager.worker with
      | .picked item => some (packager.send item object secondsSinceEpoch outcome)
      | _ => none
  | .popFront =>
      match packager.worker with
      | .sent _ => some packager.popFront
      | _ => none
  | .runOne tois =>
      if packager.worker = .completing then some (packager.runOne tois) else none

/-- The item the worker refers to while the mutex is released. -/
def inFlight (packager : Packager) : Option PackageItem :=
  match packager.worker with
  | .picked item => some item
  | .sent item => some item
  | _ => none

/-- The item that was sent and not yet removed. -/
def inHand (packager : Packager) : List PackageItem :=
  match packager.worker with
  | .sent item => [item]
  | _ => []

/-- The start of a round leaves everything as it is, or makes sure of the transmitter and
goes on with completions, or with the front item when none is queued. -/
theorem beginRound_cases (packager : Packager) (transmitterThrows : Bool) :
    packager.beginRound transmitterThrows = packager ∨
    packager.beginRound transmitterThrows =
      { packager with hasTransmitter := true, worker := .completing } ∨
    ∃ item, packager.packageItems.head? = some item ∧ packager.queued = false ∧
      packager.beginRound transmitterThrows =
        { packager with hasTransmitter := true, worker := .picked item } := by
  unfold beginRound
  split
  · exact Or.inl rfl
  · split
    · exact Or.inl rfl
    · cases packager.packageItems with
      | nil => exact Or.inr (Or.inl rfl)
      | cons item rest =>
          by_cases hqueued : packager.queued
          · simp [hqueued]
          · simp [hqueued]

theorem beginRound_spec (packager : Packager) (transmitterThrows : Bool) :
    (packager.beginRound transmitterThrows).packageItems = packager.packageItems ∧
      ((packager.beginRound transmitterThrows).worker = packager.worker ∨
        (packager.beginRound transmitterThrows).worker = .completing ∨
        ∃ item, packager.packageItems.head? = some item ∧
          (packager.beginRound transmitterThrows).worker = .picked item) := by
  rcases packager.beginRound_cases transmitterThrows with hsame | hcompleting |
    ⟨item, hhead, -, hpicked⟩
  · rw [hsame]
    exact ⟨rfl, Or.inl rfl⟩
  · rw [hcompleting]
    exact ⟨rfl, Or.inr (Or.inl rfl)⟩
  · rw [hpicked]
    exact ⟨rfl, Or.inr (Or.inr ⟨item, hhead, rfl⟩)⟩

theorem send_spec (packager : Packager) (item : PackageItem)
    (object : Except OutOfRange Object) (secondsSinceEpoch : ℕ) (outcome : SendOutcome) :
    (packager.send item object secondsSinceEpoch outcome).packageItems =
        packager.packageItems ∧
      ((packager.send item object secondsSinceEpoch outcome).worker = .roundStart ∨
        (packager.send item object secondsSinceEpoch outcome).worker = .sent item) := by
  unfold send
  cases object with
  | error exception => exact ⟨rfl, Or.inl rfl⟩
  | ok object =>
      cases outcome with
      | throws => exact ⟨rfl, Or.inl rfl⟩
      | accepted toi => exact ⟨rfl, Or.inr rfl⟩

theorem foldl_onCompletion_packageItems (tois : List ℕ) (packager : Packager) :
    (tois.foldl onCompletion packager).packageItems = packager.packageItems := by
  induction tois generalizing packager with
  | nil => rfl
  | cons toi tois ih =>
      rw [List.foldl_cons, ih]
      unfold onCompletion
      split
      · rfl
      · rfl

theorem runOne_packageItems (packager : Packager) (tois : List ℕ) :
    (packager.runOne tois).packageItems = packager.packageItems :=
  foldl_onCompletion_packageItems tois packager

/-- The steps, with what is known of the worker in each. -/
theorem step_cases {packager next : Packager} {label : Label}
    (hstep : packager.step label = some next) :
    (∃ item, label = .add item ∧ next = packager.add item) ∨
    (∃ transmitterThrows, label = .beginRound transmitterThrows ∧
      packager.worker = .roundStart ∧ next = packager.beginRound transmitterThrows) ∨
    (∃ item object secondsSinceEpoch outcome,
      label = .send object secondsSinceEpoch outcome ∧ packager.worker = .picked item ∧
      next = packager.send item object secondsSinceEpoch outcome) ∨
    (∃ item, label = .popFront ∧ packager.worker = .sent item ∧ next = packager.popFront) ∨
    (∃ tois, label = .runOne tois ∧ packager.worker = .completing ∧
      next = packager.runOne tois) := by
  cases label with
  | add item =>
      obtain rfl : packager.add item = next := by
        simpa [Packager.step] using hstep
      exact Or.inl ⟨item, rfl, rfl⟩
  | beginRound transmitterThrows =>
      simp only [Packager.step, Option.ite_none_right_eq_some, Option.some.injEq] at hstep
      obtain ⟨hworker, rfl⟩ := hstep
      exact Or.inr (Or.inl ⟨transmitterThrows, rfl, hworker, rfl⟩)
  | send object secondsSinceEpoch outcome =>
      simp only [Packager.step] at hstep
      split at hstep
      · rename_i item hworker
        cases hstep
        exact Or.inr (Or.inr (Or.inl
          ⟨item, object, secondsSinceEpoch, outcome, rfl, hworker, rfl⟩))
      · cases hstep
  | popFront =>
      simp only [Packager.step] at hstep
      split at hstep
      · rename_i item hworker
        cases hstep
        exact Or.inr (Or.inr (Or.inr (Or.inl ⟨item, rfl, hworker, rfl⟩)))
      · cases hstep
  | runOne tois =>
      simp only [Packager.step, Option.ite_none_right_eq_some, Option.some.injEq] at hstep
      obtain ⟨hworker, rfl⟩ := hstep
      exact Or.inr (Or.inr (Or.inr (Or.inr ⟨tois, rfl, hworker, rfl⟩)))

end Packager

end Mbstf.Objects
