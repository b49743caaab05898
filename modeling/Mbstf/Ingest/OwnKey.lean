import Mbstf.Core.Runs
import Mbstf.Ingest.PullIngester
import Mbstf.Ingest.PushStores

/-!
# Objects and their keys

The id of an object is passed to the store twice, as the key and inside the metadata.  A
pull item has its id from the start.  A push request gets one when it is processed, after
its metadata has been made.
-/

namespace Mbstf.Ingest

open Mbstf.Objects Mbstf.Session Mbstf.Subscription Runs

/-- The ingesters of a controller: any number that pull, and one that pushes, which has the
store they share. -/
structure Ingestion where
  pull : ℕ → PullObjectIngester
  push : PushObjectIngester

namespace Ingestion

/-- What may happen to the ingesters, in any order. -/
inductive Label where
  | fetch (index : ℕ) (item : PullObjectIngester.IngestItem)
  | fetchAgain (index : ℕ) (objectId : String) (downloadDeadline : Option TimePoint)
  | take (index : ℕ)
  | ingest (index : ℕ) (round : PullObjectIngester.Round)
  | push (callback : PushObjectIngester.Callback)

/-- The store of the ingesters. -/
def objects (ingestion : Ingestion) : ObjectStore := ingestion.push.objectStore

def setPull (ingestion : Ingestion) (index : ℕ) (ingester : PullObjectIngester) : Ingestion :=
  { ingestion with pull := Function.update ingestion.pull index ingester }

def setObjects (ingestion : Ingestion) (objects : ObjectStore) : Ingestion :=
  { ingestion with push := { ingestion.push with objectStore := objects } }

/-- One step; an exception ends the run. -/
def step (ingestion : Ingestion) : Label → Option Ingestion
  | .fetch index item => some (ingestion.setPull index ((ingestion.pull index).fetch item))
  | .fetchAgain index objectId downloadDeadline =>
      ((ingestion.pull index).fetchAgain ingestion.objects objectId
        downloadDeadline).toOption.map (ingestion.setPull index)
  | .take index => some (ingestion.setPull index (ingestion.pull index).take)
  | .ingest index round =>
      ((ingestion.pull index).ingest ingestion.objects round).toOption.map
        fun (ingester, objects) => (ingestion.setPull index ingester).setObjects objects
  | .push callback =>
      (ingestion.push.callback callback).map fun push => { ingestion with push := push }

/-- The ingesters at first: no request has been made, and the store is empty. -/
def start (pull : ℕ → PullObjectIngester) (service : SubscriptionService) : Ingestion where
  pull := pull
  push := .new service .new

end Ingestion

/-! ## Requests that are processed -/

namespace PushObjectIngester

/-- The request that a callback processes. -/
def processed (ingester : PushObjectIngester) : Callback → Option (Request × Surroundings)
  | .handleRequest call =>
      (ingester.conCls call.connection).bind fun pointer =>
        (ingester.requests[pointer]?).bind fun request =>
          if call.uploadData = [] ∧ Request.Allowed request.method then
            some (request, call.surroundings)
          else none
  | .requestCompletion _ => none

/-- A callback adds the object of the request it processes, and nothing else. -/
theorem callback_objectStore {ingester next : PushObjectIngester} {callback : Callback}
    (hcallback : ingester.callback callback = some next) :
    (ingester.processed callback = none ∧ next.objectStore = ingester.objectStore) ∨
      ∃ request told url ingestBaseUrl, ingester.processed callback = some (request, told) ∧
        next.objectStore = ingester.objectStore.addObject
          (if request.objectId = "" then told.nextObjectId else request.objectId)
          request.bodyBlocks.flatten (objectMetadata request url ingestBaseUrl told) := by
  cases callback with
  | requestCompletion connection =>
      obtain ⟨pointer, -, rfl⟩ := Option.map_eq_some_iff.mp hcallback
      exact Or.inl ⟨rfl, rfl⟩
  | handleRequest call =>
      rw [PushObjectIngester.callback, handleRequest] at hcallback
      rw [processed]
      cases hcon : ingester.conCls call.connection with
      | none =>
          rw [hcon] at hcallback
          cases hexpiry : headerExpiry call.getHeader call.now with
          | error exception =>
              rw [hexpiry] at hcallback
              cases hcallback
          | ok expires =>
              rw [hexpiry] at hcallback
              obtain rfl := Option.some.inj hcallback
              exact Or.inl ⟨rfl, rfl⟩
      | some pointer =>
          rw [hcon] at hcallback
          obtain rfl : ingester.continueRequest call pointer = next := Option.some.inj hcallback
          rw [Option.bind_some]
          unfold continueRequest
          by_cases hupload : call.uploadData = []
          · rw [if_neg (not_not.mpr hupload)]
            cases hrequest : ingester.requests[pointer]? with
            | none => exact Or.inl ⟨rfl, rfl⟩
            | some request =>
                rw [Option.bind_some]
                dsimp only
                rw [requestHandler]
                by_cases hallowed : Request.Allowed request.method
                · obtain ⟨urlPrefix, url, ingestBaseUrl, object, rfl, hprocessed⟩ :=
                    ingester.processRequest_metadata pointer request call.surroundings
                  rw [if_neg (not_not.mpr hallowed), if_pos ⟨hupload, hallowed⟩, hprocessed]
                  exact Or.inr ⟨request, call.surroundings, url, ingestBaseUrl, rfl, rfl⟩
                · rw [if_pos hallowed, if_neg fun hboth => hallowed hboth.2]
                  exact Or.inl ⟨rfl, rfl⟩
          · rw [if_pos hupload]
            refine Or.inl ⟨?_, rfl⟩
            cases ingester.requests[pointer]? with
            | none => rfl
            | some request => exact if_neg fun hboth => hupload hboth.1

end PushObjectIngester

/-! ## Keys -/

/-- The metadata under a key has the key as its id. -/
def OwnIds (objects : ObjectStore) : Prop :=
  ∀ objectId metadata, objects.getMetadata objectId = .ok metadata →
    metadata.objectId = objectId

/-- Every object of a store knows its key, and an object that is fetched again, on account
of its metadata, is stored again under the same key. -/
structure KnowsOwnKeys (objects : ObjectStore) : Prop where
  ownIds : OwnIds objects
  again : ∀ objectId downloadDeadline (puller after : PullObjectIngester),
    (∀ item ∈ puller.fetchList, item.objectId ≠ objectId) →
      puller.fetchAgain objects objectId downloadDeadline = .ok after →
        ∃ item : PullObjectIngester.IngestItem,
          after.fetchList.Perm (item :: puller.fetchList) ∧ item.objectId = objectId ∧
            ∀ (ingester ingesterAfter : PullObjectIngester) (current next : ObjectStore)
              (round : PullObjectIngester.Round), ingester.fetching = some item →
                ingester.ingest current round = .ok (ingesterAfter, next) →
                  next = current ∨
                    ∃ data metadata, next = current.addObject objectId data metadata

theorem knowsOwnKeys_iff (objects : ObjectStore) : KnowsOwnKeys objects ↔ OwnIds objects := by
  constructor
  · exact fun hknows => hknows.ownIds
  · intro hown
    refine ⟨hown, ?_⟩
    intro objectId downloadDeadline puller after hpending hagain
    have hnone : ¬ puller.fetchList.any (fun item => item.objectId = objectId) = true := by
      intro hany
      obtain ⟨item, hitem, hsame⟩ := List.any_eq_true.mp hany
      exact hpending item hitem (of_decide_eq_true hsame)
    rw [PullObjectIngester.fetchAgain, if_neg hnone] at hagain
    obtain ⟨metadata, hmetadata, rfl⟩ := Folds.map_eq_ok hagain
    let item := PullObjectIngester.IngestItem.ofMetadata metadata downloadDeadline
    have hid : item.objectId = objectId := hown objectId metadata hmetadata
    have hlist : (puller.fetchList ++ [item]).Perm (item :: puller.fetchList) :=
      List.perm_append_singleton item puller.fetchList
    refine ⟨item, (DeadlineOrder.sort_perm _ _).trans hlist, hid, ?_⟩
    intro ingester ingesterAfter current next round hfetching hingest
    rcases PullObjectIngester.ingest_objects hingest with hsame | ⟨fetched, curl, hfetched, rfl⟩
    · exact Or.inl hsame
    · obtain rfl := Option.some.inj (hfetching.symm.trans hfetched)
      exact Or.inr ⟨_, _, congrArg (fun key => current.addObject key _ _) hid⟩

/-- An addition keeps the ids own exactly when it passes the same id twice. -/
theorem ownIds_addObject_iff {objects : ObjectStore} (hown : OwnIds objects)
    (objectId : String) (data : ObjectData) (metadata : Metadata) :
    OwnIds (objects.addObject objectId data metadata) ↔ metadata.objectId = objectId := by
  constructor
  · intro hafter
    exact hafter objectId metadata.moveConstruct (ObjectStore.getMetadata_addObject_self ..)
  · intro hid other found hfound
    rw [ObjectStore.getMetadata, ObjectStore.at?_addObject] at hfound
    by_cases hsame : objectId = other
    · rw [if_pos hsame] at hfound
      rw [← Except.ok.inj hfound, ← hsame]
      exact hid
    · rw [if_neg hsame] at hfound
      exact hown other found hfound

namespace Ingestion

/-- A request that is processed has its id already, or gets an empty one. -/
def Identified (ingestion : Ingestion) : Label → Prop
  | .push callback => ∀ request told, ingestion.push.processed callback = some (request, told) →
      request.objectId = "" → told.nextObjectId = ""
  | _ => True

theorem ownIds_step_iff {ingestion next : Ingestion} {label : Label}
    (hown : OwnIds ingestion.objects) (hstep : ingestion.step label = some next) :
    OwnIds next.objects ↔ ingestion.Identified label := by
  cases label with
  | fetch index item =>
      obtain rfl := Option.some.inj hstep
      exact iff_of_true hown trivial
  | fetchAgain index objectId downloadDeadline =>
      obtain ⟨puller, -, rfl⟩ := Option.map_eq_some_iff.mp hstep
      exact iff_of_true hown trivial
  | take index =>
      obtain rfl := Option.some.inj hstep
      exact iff_of_true hown trivial
  | ingest index round =>
      obtain ⟨⟨puller, objects⟩, hingest, rfl⟩ := Option.map_eq_some_iff.mp hstep
      refine iff_of_true ?_ trivial
      cases hresult : (ingestion.pull index).ingest ingestion.objects round with
      | error exception =>
          rw [hresult] at hingest
          cases hingest
      | ok result =>
          rw [hresult] at hingest
          obtain rfl : result = (puller, objects) := Option.some.inj hingest
          rcases PullObjectIngester.ingest_objects hresult with hsame | ⟨item, curl, -, hadded⟩
          · exact hsame ▸ hown
          · change OwnIds objects
            rw [hadded, ownIds_addObject_iff hown]
            rfl
  | push callback =>
      obtain ⟨push, hcallback, rfl⟩ := Option.map_eq_some_iff.mp hstep
      change OwnIds push.objectStore ↔ ∀ request told, _ → _
      rcases PushObjectIngester.callback_objectStore hcallback with ⟨hnone, hsame⟩ |
        ⟨request, told, url, ingestBaseUrl, hsome, hadded⟩
      · rw [hnone, hsame]
        refine iff_of_true hown ?_
        intro request told hprocessed
        cases hprocessed
      · have hbefore : OwnIds ingestion.push.objectStore := hown
        rw [hadded, hsome, ownIds_addObject_iff hbefore]
        have hguard : (∀ other others, some (request, told) = some (other, others) →
            other.objectId = "" → others.nextObjectId = "") ↔
              (request.objectId = "" → told.nextObjectId = "") := by
          constructor
          · exact fun hall => hall request told rfl
          · rintro hone other others ⟨⟩
            exact hone
        rw [hguard]
        change request.objectId = _ ↔ _
        split
        case isTrue hempty =>
            rw [hempty]
            exact ⟨fun hsame _ => hsame.symm, fun hid => (hid rfl).symm⟩
        case isFalse hidentified =>
            exact iff_of_true rfl fun hempty => absurd hempty hidentified

/-- In every run of the ingesters all objects know their own keys exactly when every push
request had its id, or got an empty one, when it was processed. -/
theorem knowsOwnKeys_iff_identified (pull : ℕ → PullObjectIngester)
    (service : SubscriptionService) (labels : List Label) :
    Throughout step (fun ingestion => KnowsOwnKeys ingestion.objects) (start pull service)
        labels ↔
      Guarded step Identified (start pull service) labels := by
  have hstart : OwnIds (start pull service).objects := by
    intro objectId metadata hmetadata
    cases hmetadata
  simp only [knowsOwnKeys_iff]
  exact throughout_iff_of_step (fun _ _ _ hown hnext => ownIds_step_iff hown hnext) hstart

/-- A push stores its object under the generated id, and the id in the metadata is empty. -/
theorem pushed_object_without_id :
    ¬ Throughout step (fun ingestion => KnowsOwnKeys ingestion.objects)
      (start (fun _ => .new true []) .new)
      [.push (.handleRequest (PushObjectIngester.segmentCall 1 [])),
        .push (.handleRequest (PushObjectIngester.segmentCall 1 []))] := by
  intro hall
  have hknows : KnowsOwnKeys _ := (hall.2 _ rfl).2 _ rfl
  have hid : "" = "1" := hknows.ownIds "1" _ rfl
  exact absurd hid (by decide)

end Ingestion

end Mbstf.Ingest
