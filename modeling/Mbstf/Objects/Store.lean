import Mathlib

/-!
# The object store

`ObjectStore` keeps, under an object id, the bytes of an object and its
metadata, and queues one event for each `addObject` and each `deleteObject`.
An object reaches the map through `std::make_pair` and `insert_or_assign`, that
is, through the move constructor of the metadata and then either the move
constructor again, for a new key, or the move assignment, for a key that is
overwritten.  The three are modelled field by field.
-/

namespace Mbstf.Objects

open Std

/-- A `std::chrono::system_clock::time_point`, in nanoseconds since the epoch. -/
abbrev TimePoint := ℤ

/-- `std::vector<unsigned char>`. -/
abbrev ObjectData := List UInt8

/-- `ObjectStore::Metadata`. -/
structure Metadata where
  objectId : String
  mediaType : String
  originalUrl : String
  fetchedUrl : String
  acquisitionId : String
  keepAfterSend : Bool
  objIngestBaseUrl : Option String
  objDistributionBaseUrl : Option String
  entityTag : Option String
  cacheExpires : Option TimePoint
  receivedTime : TimePoint
  created : TimePoint
  modified : TimePoint
  deriving DecidableEq

/-- `std::pair<ObjectData, Metadata>`. -/
abbrev Object := ObjectData × Metadata

/-- `std::out_of_range`, thrown by `std::map::at`. -/
inductive OutOfRange where
  | outOfRange
  deriving DecidableEq

namespace Metadata

/-- `Metadata(const std::string&, …)`, called at the given time. -/
def new (now : TimePoint) (objectId mediaType url fetchedUrl acquisitionId : String)
    (lastModified : TimePoint) (objIngestBaseUrl objDistributionBaseUrl : Option String)
    (cacheExpires : Option TimePoint) : Metadata where
  objectId := objectId
  mediaType := mediaType
  originalUrl := url
  fetchedUrl := fetchedUrl
  acquisitionId := acquisitionId
  keepAfterSend := false
  objIngestBaseUrl := objIngestBaseUrl
  objDistributionBaseUrl := objDistributionBaseUrl
  entityTag := none
  cacheExpires := cacheExpires
  receivedTime := now
  created := now
  modified := lastModified

/-- `Metadata(Metadata&&)`.  The initialiser list does not name `m_entityTag`,
which is then default constructed. -/
def moveConstruct (other : Metadata) : Metadata where
  objectId := other.objectId
  mediaType := other.mediaType
  originalUrl := other.originalUrl
  fetchedUrl := other.fetchedUrl
  acquisitionId := other.acquisitionId
  keepAfterSend := other.keepAfterSend
  objIngestBaseUrl := other.objIngestBaseUrl
  objDistributionBaseUrl := other.objDistributionBaseUrl
  entityTag := none
  cacheExpires := other.cacheExpires
  receivedTime := other.receivedTime
  created := other.created
  modified := other.modified

/-- `Metadata(const Metadata&)`: the same list. -/
def copyConstruct (other : Metadata) : Metadata := other.moveConstruct

/-- `operator=(Metadata&&) = default`: every field. -/
def moveAssign (_target other : Metadata) : Metadata where
  objectId := other.objectId
  mediaType := other.mediaType
  originalUrl := other.originalUrl
  fetchedUrl := other.fetchedUrl
  acquisitionId := other.acquisitionId
  keepAfterSend := other.keepAfterSend
  objIngestBaseUrl := other.objIngestBaseUrl
  objDistributionBaseUrl := other.objDistributionBaseUrl
  entityTag := other.entityTag
  cacheExpires := other.cacheExpires
  receivedTime := other.receivedTime
  created := other.created
  modified := other.modified

/-- The constructors keep everything but the entity tag. -/
theorem moveConstruct_eq (metadata : Metadata) :
    metadata.moveConstruct = { metadata with entityTag := none } := rfl

@[simp]
theorem moveAssign_eq (target other : Metadata) : target.moveAssign other = other := rfl

theorem moveConstruct_eq_self_iff {metadata : Metadata} :
    metadata.moveConstruct = metadata ↔ metadata.entityTag = none := by
  constructor
  · intro hsame
    rw [← hsame]
    rfl
  · intro htag
    rw [moveConstruct_eq, ← htag]

end Metadata

/-- The events a store sends. -/
inductive StoreEvent where
  | objectAdded (objectId : String)
  | objectDeleted (objectId : String)
  deriving DecidableEq

/-- An `ObjectStore`: `m_store`, and the events queued by `sendEventAsynchronous`
so far, oldest first. -/
structure ObjectStore where
  store : ExtTreeMap String Object
  events : List StoreEvent

namespace ObjectStore

/-- A store with no objects. -/
def new : ObjectStore where
  store := ∅
  events := []

/-- `m_store.insert_or_assign(object_id, std::move(object))`. -/
def insertOrAssign (store : ExtTreeMap String Object) (objectId : String) (object : Object) :
    ExtTreeMap String Object :=
  match store[objectId]? with
  | none => store.insert objectId (object.1, object.2.moveConstruct)
  | some old => store.insert objectId (object.1, old.2.moveAssign object.2)

/-- `addObject(const std::string&, ObjectData&&, Metadata&&)`: the argument of
`insert_or_assign` is the pair `std::make_pair` moved the metadata into. -/
def addObject (objects : ObjectStore) (objectId : String) (data : ObjectData)
    (metadata : Metadata) : ObjectStore where
  store := insertOrAssign objects.store objectId (data, metadata.moveConstruct)
  events := objects.events ++ [.objectAdded objectId]

/-- `m_store.at(object_id)`. -/
def at? (objects : ObjectStore) (objectId : String) : Except OutOfRange Object :=
  match objects.store[objectId]? with
  | none => .error .outOfRange
  | some object => .ok object

/-- `getObjectData(const std::string&)`. -/
def getObjectData (objects : ObjectStore) (objectId : String) : Except OutOfRange ObjectData :=
  (objects.at? objectId).map Prod.fst

/-- `getMetadata(const std::string&)`. -/
def getMetadata (objects : ObjectStore) (objectId : String) : Except OutOfRange Metadata :=
  (objects.at? objectId).map Prod.snd

/-- `isStale(const std::string&)`, with the clock at `now`. -/
def isStale (objects : ObjectStore) (objectId : String) (now : TimePoint) : Bool :=
  match objects.store[objectId]? with
  | none => false
  | some object => object.2.cacheExpires.any (· < now)

/-- `deleteObject(const std::string&)`: the event is sent whether or not there
was something to erase. -/
def deleteObject (objects : ObjectStore) (objectId : String) : ObjectStore where
  store := objects.store.erase objectId
  events := objects.events ++ [.objectDeleted objectId]

/-- `removeObject(const std::string&)`. -/
def removeObject (objects : ObjectStore) (objectId : String) : ObjectStore × Bool :=
  if objectId ∈ objects.store then
    ({ objects with store := objects.store.erase objectId }, true)
  else (objects, false)

/-- The body of the loop of `removeObjects`. -/
def removeListed (objects : ObjectStore) (objectId : String) : ObjectStore :=
  if objectId ∈ objects.store then { objects with store := objects.store.erase objectId }
  else objects

/-- `removeObjects(const std::list<std::string>&)`. -/
def removeObjects (objects : ObjectStore) (objectIds : List String) : ObjectStore × Bool :=
  (objectIds.foldl removeListed objects, true)

/-- The mutators as data. -/
inductive Call where
  | addObject (objectId : String) (data : ObjectData) (metadata : Metadata)
  | deleteObject (objectId : String)
  | removeObject (objectId : String)
  | removeObjects (objectIds : List String)

/-- The store after one call. -/
def exec (objects : ObjectStore) : Call → ObjectStore
  | .addObject objectId data metadata => objects.addObject objectId data metadata
  | .deleteObject objectId => objects.deleteObject objectId
  | .removeObject objectId => (objects.removeObject objectId).1
  | .removeObjects objectIds => (objects.removeObjects objectIds).1

/-- The store after a sequence of calls on a new one. -/
def history (calls : List Call) : ObjectStore := calls.foldl exec new

/-! ## What a call does to one key -/

theorem getElem?_insertOrAssign (store : ExtTreeMap String Object) (added objectId : String)
    (data : ObjectData) (metadata : Metadata) :
    (insertOrAssign store added (data, metadata.moveConstruct))[objectId]? =
      if added = objectId then some (data, metadata.moveConstruct) else store[objectId]? := by
  have hinsert : ∀ object : Object, (store.insert added object)[objectId]? =
      if added = objectId then some object else store[objectId]? := by
    intro object
    simp only [ExtTreeMap.getElem?_insert, LawfulEqCmp.compare_eq_iff_eq]
  unfold insertOrAssign
  cases store[added]? with
  | none => exact hinsert _
  | some old => exact hinsert _

theorem at?_addObject (objects : ObjectStore) (added objectId : String) (data : ObjectData)
    (metadata : Metadata) :
    (objects.addObject added data metadata).at? objectId =
      if added = objectId then .ok (data, metadata.moveConstruct) else objects.at? objectId := by
  rw [at?, addObject, getElem?_insertOrAssign]
  by_cases hsame : added = objectId
  · rw [if_pos hsame, if_pos hsame]
  · rw [if_neg hsame, if_neg hsame]
    rfl

theorem getMetadata_addObject_self (objects : ObjectStore) (objectId : String)
    (data : ObjectData) (metadata : Metadata) :
    (objects.addObject objectId data metadata).getMetadata objectId =
      .ok metadata.moveConstruct := by
  rw [getMetadata, at?_addObject, if_pos rfl]
  rfl

/-- An object is stale when its expiry time has passed. -/
theorem isStale_iff {objects : ObjectStore} {objectId : String} {metadata : Metadata}
    (hmetadata : objects.getMetadata objectId = .ok metadata) (now : TimePoint) :
    objects.isStale objectId now = true ↔ ∃ expiry, metadata.cacheExpires = some expiry ∧
      expiry < now := by
  rw [getMetadata, at?] at hmetadata
  rw [isStale]
  cases hobject : objects.store[objectId]? with
  | none =>
      rw [hobject] at hmetadata
      cases hmetadata
  | some object =>
      rw [hobject] at hmetadata
      obtain rfl := Except.ok.inj hmetadata
      simp only [Option.any_eq_true, decide_eq_true_eq]

theorem getElem?_erase (store : ExtTreeMap String Object) (erased objectId : String) :
    (store.erase erased)[objectId]? =
      if erased = objectId then none else store[objectId]? := by
  simp only [ExtTreeMap.getElem?_erase, LawfulEqCmp.compare_eq_iff_eq]

theorem getElem?_removeListed (objects : ObjectStore) (removed objectId : String) :
    (objects.removeListed removed).store[objectId]? =
      if removed = objectId then none else objects.store[objectId]? := by
  unfold removeListed
  split
  · exact getElem?_erase objects.store removed objectId
  · rename_i habsent
    by_cases hsame : removed = objectId
    · subst hsame
      simpa using habsent
    · rw [if_neg hsame]

theorem getElem?_removeObjects (objects : ObjectStore) (objectIds : List String)
    (objectId : String) :
    (objects.removeObjects objectIds).1.store[objectId]? =
      if objectId ∈ objectIds then none else objects.store[objectId]? := by
  rw [removeObjects]
  induction objectIds generalizing objects with
  | nil => simp
  | cons removed objectIds ih =>
      rw [List.foldl_cons, ih, getElem?_removeListed]
      by_cases hlater : objectId ∈ objectIds
      · simp [hlater]
      · by_cases hsame : removed = objectId
        · simp [hsame]
        · simp [hlater, hsame, Ne.symm hsame]

/-- The object ids a call is about. -/
def Call.objectIds : Call → List String
  | .addObject added _ _ => [added]
  | .deleteObject deleted => [deleted]
  | .removeObject removed => [removed]
  | .removeObjects removed => removed

/-- The object a call leaves under an id it is about, as it was passed. -/
def Call.passed : Call → Option Object
  | .addObject _ data metadata => some (data, metadata)
  | .deleteObject _ => none
  | .removeObject _ => none
  | .removeObjects _ => none

/-- What is kept of an object that was passed. -/
def kept (object : Object) : Object := (object.1, object.2.moveConstruct)

/-- One call, seen at one id. -/
theorem getElem?_exec (objects : ObjectStore) (call : Call) (objectId : String) :
    (objects.exec call).store[objectId]? =
      if objectId ∈ call.objectIds then call.passed.map kept else objects.store[objectId]? := by
  cases call with
  | addObject added data metadata =>
      rw [exec, addObject, getElem?_insertOrAssign]
      simp [Call.objectIds, Call.passed, kept, eq_comm]
  | deleteObject deleted =>
      rw [exec, deleteObject, getElem?_erase]
      simp [Call.objectIds, Call.passed, eq_comm]
  | removeObject removed =>
      have hremove : (objects.removeObject removed).1 = objects.removeListed removed := by
        unfold removeObject removeListed
        split
        · rfl
        · rfl
      rw [exec, hremove, getElem?_removeListed]
      simp [Call.objectIds, Call.passed, eq_comm]
  | removeObjects removed =>
      rw [exec, getElem?_removeObjects]
      rfl

/-! ## Reading back over a whole history -/

/-- The data and metadata passed in the last `addObject` for an id that no later
call deleted. -/
def lastAdded (objectId : String) (calls : List Call) : Option Object :=
  calls.foldl (fun last call => if objectId ∈ call.objectIds then call.passed else last) none

theorem lastAdded_concat (objectId : String) (calls : List Call) (call : Call) :
    lastAdded objectId (calls ++ [call]) =
      if objectId ∈ call.objectIds then call.passed else lastAdded objectId calls := by
  simp [lastAdded]

theorem history_concat (calls : List Call) (call : Call) :
    history (calls ++ [call]) = (history calls).exec call := by
  simp [history]

/-- The store holds what was passed last, without the entity tag. -/
theorem getElem?_history (objectId : String) (calls : List Call) :
    (history calls).store[objectId]? = (lastAdded objectId calls).map kept := by
  induction calls using List.reverseRecOn with
  | nil => simp [history, new, lastAdded]
  | append_singleton calls call ih =>
      rw [history_concat, getElem?_exec, lastAdded_concat, ih]
      split
      · rfl
      · rfl

/-- The two answers for an id are the object given, or both are the exception. -/
def Answers (objects : ObjectStore) (objectId : String) : Option Object → Prop
  | none =>
      objects.getObjectData objectId = .error .outOfRange ∧
        objects.getMetadata objectId = .error .outOfRange
  | some object =>
      objects.getObjectData objectId = .ok object.1 ∧
        objects.getMetadata objectId = .ok object.2

/-- Read over write for one id: after the calls the store answers what was passed
last, and a further call that is not about the id changes neither answer. -/
structure ReadsBack (calls : List Call) (objectId : String) : Prop where
  answers : (history calls).Answers objectId (lastAdded objectId calls)
  frame : ∀ call : Call, objectId ∉ call.objectIds →
    (history (calls ++ [call])).getObjectData objectId =
        (history calls).getObjectData objectId ∧
      (history (calls ++ [call])).getMetadata objectId =
        (history calls).getMetadata objectId

theorem answers_getElem? (objects : ObjectStore) (objectId : String) :
    objects.Answers objectId objects.store[objectId]? := by
  unfold Answers getObjectData getMetadata at?
  cases objects.store[objectId]? with
  | none => exact ⟨rfl, rfl⟩
  | some object => exact ⟨rfl, rfl⟩

theorem answers_kept_iff {objects : ObjectStore} {objectId : String} {last : Option Object}
    (hstore : objects.store[objectId]? = last.map kept) :
    objects.Answers objectId last ↔ ∀ object, last = some object →
      object.2.entityTag = none := by
  have hanswers := objects.answers_getElem? objectId
  rw [hstore] at hanswers
  cases last with
  | none => simpa using hanswers
  | some object =>
      obtain ⟨hdata, hmetadata⟩ := hanswers
      have hsame : objects.getMetadata objectId = .ok object.2 ↔
          object.2.moveConstruct = object.2 := by
        rw [hmetadata, Except.ok.injEq]
        rfl
      simp only [Answers, hsame, Metadata.moveConstruct_eq_self_iff, Option.some.injEq,
        forall_eq']
      exact and_iff_right hdata

/-- The store reads back what was written at an id exactly when the last object
added there, if it still is, was passed without an entity tag. -/
theorem readsBack_iff_no_entityTag (calls : List Call) (objectId : String) :
    ReadsBack calls objectId ↔ ∀ data metadata,
      lastAdded objectId calls = some (data, metadata) → metadata.entityTag = none := by
  have hframe : ∀ call : Call, objectId ∉ call.objectIds →
      (history (calls ++ [call])).at? objectId = (history calls).at? objectId := by
    intro call hother
    rw [at?, at?, history_concat, getElem?_exec, if_neg hother]
  have hanswers := answers_kept_iff (getElem?_history objectId calls)
  constructor
  · intro hreads data metadata hlast
    exact hanswers.mp hreads.answers (data, metadata) hlast
  · intro htag
    refine ⟨hanswers.mpr fun object hlast => htag object.1 object.2 hlast, ?_⟩
    intro call hother
    simp only [getObjectData, getMetadata, hframe call hother, and_self]

/-- An object fetched with an `ETag`, first stored and then stored again. -/
def taggedMetadata : Metadata :=
  { Metadata.new 100 "1" "text/plain" "http://example.com/object1" "http://example.com/object1"
      "acq1" 90 none none none with entityTag := some "etag1" }

theorem entityTag_not_read_back :
    ¬ ReadsBack [.addObject "1" [7] taggedMetadata] "1" ∧
      ¬ ReadsBack
          [.addObject "1" [7] taggedMetadata, .addObject "1" [8] taggedMetadata] "1" := by
  constructor
  · intro hreads
    have hmetadata := hreads.answers.2
    have hstored : (history [.addObject "1" [7] taggedMetadata]).getMetadata "1" =
        .ok taggedMetadata.moveConstruct := by decide
    rw [hstored] at hmetadata
    exact absurd hmetadata (by decide)
  · intro hreads
    have hmetadata := hreads.answers.2
    have hstored : (history [.addObject "1" [7] taggedMetadata,
        .addObject "1" [8] taggedMetadata]).getMetadata "1" =
          .ok taggedMetadata.moveConstruct := by decide
    rw [hstored] at hmetadata
    exact absurd hmetadata (by decide)

end ObjectStore

end Mbstf.Objects
