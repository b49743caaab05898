import Mbstf.Ingest.OwnResponse
import Mbstf.Ingest.PushRequest
import Mbstf.Session.Controllers

/-!
# The pull ingester

A `PullObjectIngester` has a list of items to fetch, kept in deadline order, and a worker
that takes the front item, releases the mutex while it gets the URL, and adds the object
to the store.  Other threads may ask for more items, or for a stored object to be fetched
again, while the worker is at it.
-/

namespace Mbstf.Ingest

open Mbstf.Folds Mbstf.Objects Mbstf.Session

/-- The lifetime of a fetched object, in seconds: its `max-age`, and without one the
default. -/
def pullLifetime (maxAge : ℕ) : ℕ := if maxAge ≠ 0 then maxAge else cacheExpiry

namespace PullObjectIngester

/-- `PullObjectIngester::IngestItem`. -/
structure IngestItem where
  objectId : String
  url : String
  acquisitionId : String
  objIngestBaseUrl : Option String
  objDistributionBaseUrl : Option String
  deadline : Option TimePoint
  deriving DecidableEq

namespace IngestItem

/-- `IngestItem(const ObjectStore::Metadata&, const std::optional<time_type>&)`. -/
def ofMetadata (metadata : Metadata) (downloadDeadline : Option TimePoint) : IngestItem where
  objectId := metadata.objectId
  url := metadata.fetchedUrl
  acquisitionId := metadata.acquisitionId
  objIngestBaseUrl := metadata.objIngestBaseUrl
  objDistributionBaseUrl := metadata.objDistributionBaseUrl
  deadline := downloadDeadline

/-- An item of a session, under the id it is given. -/
def ofSession (objectId : String) (item : Session.IngestItem) : IngestItem where
  objectId := objectId
  url := item.url
  acquisitionId := item.acquisitionId
  objIngestBaseUrl := item.objIngestBaseUrl
  objDistributionBaseUrl := item.objDistributionBaseUrl
  deadline := none

end IngestItem

/-- `sortListByPolicy()`. -/
def sortListByPolicy (fetchList : List IngestItem) : List IngestItem :=
  DeadlineOrder.sort IngestItem.deadline fetchList

/-- The times a round reads off the clock, and what libcurl does in it with a URL in a number
of milliseconds. -/
structure Round where
  now : TimePoint
  lastModified : TimePoint
  created : TimePoint
  expiresFrom : TimePoint
  transfer : String → ℤ → Transfer

/-- The time a round gives libcurl, in milliseconds. -/
def timeout (item : IngestItem) (now : TimePoint) : ℤ :=
  match item.deadline with
  | some deadline => (deadline - now).tdiv 1000000
  | none => 10000

/-- What libcurl does with the item in the time there is. -/
def Round.transferOf (round : Round) (item : IngestItem) : Transfer :=
  round.transfer item.url (timeout item round.now)

/-- The URL an object is said to be fetched from: the target of the last permanent
redirect, if there was one. -/
def fetchedUrl (item : IngestItem) (curl : Curl) : String :=
  if curl.permanentRedirectUrl = "" then item.url else curl.permanentRedirectUrl

/-- The metadata of a fetched object. -/
def objectMetadata (item : IngestItem) (curl : Curl) (round : Round) : Metadata :=
  { Metadata.new round.created item.objectId curl.contentType item.url (fetchedUrl item curl)
      item.acquisitionId round.lastModified item.objIngestBaseUrl item.objDistributionBaseUrl
      none with
    cacheExpires := some (addSeconds round.expiresFrom (pullLifetime curl.cacheControlMaxAge))
    entityTag := if curl.etag = "" then none else some curl.etag }

end PullObjectIngester

/-- `PullObjectIngester`; `fetching` is the item that its worker has taken. -/
structure PullObjectIngester where
  fetchList : List PullObjectIngester.IngestItem
  fetching : Option PullObjectIngester.IngestItem
  curl : Curl

namespace PullObjectIngester

/-- `PullObjectIngester(ObjectStore&, ObjectController&, const std::list<IngestItem>&)`. -/
def new (hasHandle : Bool) (items : List IngestItem) : PullObjectIngester where
  fetchList := sortListByPolicy items
  fetching := none
  curl := .new hasHandle

/-- `fetch(const IngestItem&)` and `fetch(IngestItem&&)`. -/
def fetch (ingester : PullObjectIngester) (item : IngestItem) : PullObjectIngester :=
  { ingester with fetchList := sortListByPolicy (ingester.fetchList ++ [item]) }

/-- The loop of the other `fetch`: the first item for the object gets the deadline. -/
def postpone (objectId : String) (downloadDeadline : Option TimePoint) :
    List IngestItem → List IngestItem
  | [] => []
  | item :: rest =>
      if item.objectId = objectId then
        { item with deadline := downloadDeadline.or item.deadline } :: rest
      else item :: postpone objectId downloadDeadline rest

/-- `fetch(const std::string&, const std::optional<time_type>&)`. -/
def fetchAgain (ingester : PullObjectIngester) (objects : ObjectStore) (objectId : String)
    (downloadDeadline : Option TimePoint) : Except OutOfRange PullObjectIngester :=
  if ingester.fetchList.any (fun item => item.objectId = objectId) then
    .ok { ingester with
      fetchList := sortListByPolicy (postpone objectId downloadDeadline ingester.fetchList) }
  else
    (objects.getMetadata objectId).map fun metadata =>
      ingester.fetch (.ofMetadata metadata downloadDeadline)

/-- The start of `doObjectIngest()`, up to the release of the mutex. -/
def take (ingester : PullObjectIngester) : PullObjectIngester :=
  match ingester.fetchList with
  | [] => ingester
  | item :: rest => { ingester with fetchList := rest, fetching := some item }

/-- The rest of `doObjectIngest()`.  The data is moved out of the `Curl` object. -/
def ingest (ingester : PullObjectIngester) (objects : ObjectStore) (round : Round) :
    Except StdException (PullObjectIngester × ObjectStore) :=
  match ingester.fetching with
  | none => .ok (ingester, objects)
  | some item =>
      if 0 < timeout item round.now then
        (ingester.curl.get (round.transferOf item)).map fun (curl, bytesReceived) =>
          if 0 ≤ bytesReceived then
            ({ ingester with fetching := none, curl := { curl with receivedData := [] } },
              objects.addObject item.objectId curl.receivedData (objectMetadata item curl round))
          else ({ ingester with fetching := none, curl := curl }, objects)
      else .ok ({ ingester with fetching := none }, objects)

/-! ## What a round does to the store -/

/-- A round leaves the store as it is, or adds the object under the id of the item. -/
theorem ingest_objects {ingester after : PullObjectIngester} {objects next : ObjectStore}
    {round : Round} (hingest : ingester.ingest objects round = .ok (after, next)) :
    next = objects ∨ ∃ item curl, ingester.fetching = some item ∧
      next = objects.addObject item.objectId curl.receivedData
        (objectMetadata item curl round) := by
  unfold ingest at hingest
  split at hingest
  case h_1 => exact Or.inl (Prod.mk.inj (Except.ok.inj hingest)).2.symm
  case h_2 item hfetching =>
      split at hingest
      case isFalse => exact Or.inl (Prod.mk.inj (Except.ok.inj hingest)).2.symm
      case isTrue =>
          obtain ⟨⟨curl, bytesReceived⟩, hget, hafter⟩ := map_eq_ok hingest
          dsimp only at hafter
          split at hafter
          · exact Or.inr ⟨item, curl, hfetching, (Prod.mk.inj hafter).2.symm⟩
          · exact Or.inl (Prod.mk.inj hafter).2.symm

/-- A complete transfer is stored, with the lifetime of the last `max-age` there was. -/
theorem ingest_completed {ingester : PullObjectIngester} {item : IngestItem} {round : Round}
    {chain : Chain} (objects : ObjectStore) (hfetching : ingester.fetching = some item)
    (htime : 0 < timeout item round.now) (hhandle : ingester.curl.hasHandle = true)
    (htransfer : round.transferOf item = .completed chain) :
    ∃ after curl, ingester.ingest objects round =
        .ok (after, objects.addObject item.objectId curl.receivedData
          (objectMetadata item curl round)) ∧
      curl.cacheControlMaxAge = chain.lastMaxAge.getD ingester.curl.cacheControlMaxAge := by
  obtain ⟨curl, hget, -, -, -, -, -, hage⟩ := Curl.get_completed hhandle chain
  refine ⟨{ ingester with fetching := none, curl := { curl with receivedData := [] } }, curl,
    ?_, hage⟩
  rw [ingest, hfetching]
  simp [htime, htransfer, hget, Except.map]

end PullObjectIngester

end Mbstf.Ingest
