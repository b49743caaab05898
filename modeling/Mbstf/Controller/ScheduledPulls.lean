import Mbstf.Controller.ManifestRefresh
import Mbstf.Controller.PullWorker

/-!
# The next items to pull

In each round the worker of the scheduled pulls asks the manifest handler for the objects
that become available first: segments that libmpd++ reports, and the extra objects of the
handler, each of them not before the current time.  It sleeps until they are available and
hands them to the pull ingesters, one each, of which it makes as many as are missing.
-/

namespace Mbstf.Controller

open Mbstf.Ingest Mbstf.Objects

/-! ## `nextIngestItems()` -/

/-- What a call of `nextIngestItems()` meets: the answer of `selectedSegmentAvailability()`,
the clock, the ids that `nextObjectId()` makes one after another, and the base URLs of the
session. -/
structure NextIngestCall where
  selectedSegmentAvailability : Except DomainError (List SegmentAvailability)
  currentTime : TimePoint
  nextObjectId : ℕ → String
  objIngestBaseUrl : Option String
  objDistributionBaseUrl : Option String

/-- A segment that is available already is available from now. -/
def SegmentAvailability.notBefore (segment : SegmentAvailability) (currentTime : TimePoint) :
    SegmentAvailability :=
  if segment.availabilityStartTime < currentTime then
    { segment with availabilityStartTime := currentTime }
  else segment

/-- `std::list::sort` with the order of the segments, which is that of their start. -/
def sortSegments (segments : List SegmentAvailability) : List SegmentAvailability :=
  DeadlineOrder.sort (fun segment => some segment.availabilityStartTime) segments

/-- The item made of a segment, when so many were made before. -/
def NextIngestCall.ingestItem (call : NextIngestCall) (made : ℕ) (segment : SegmentAvailability) :
    PullObjectIngester.IngestItem where
  objectId := call.nextObjectId made
  url := segment.segmentURL
  acquisitionId := ""
  objIngestBaseUrl := call.objIngestBaseUrl
  objDistributionBaseUrl := call.objDistributionBaseUrl
  deadline := segment.availabilityEndTime

/-- `removeExtraPullObjectsEntry(const SegmentAvailability&)`: the first entry with the URL
goes. -/
def removeExtraPullObjectsEntry (extraPullObjects : List SegmentAvailability)
    (segment : SegmentAvailability) : List SegmentAvailability :=
  extraPullObjects.eraseP fun entry => entry.segmentURL = segment.segmentURL

namespace DASHManifestHandler

variable {MPD : Type}

/-- `nextIngestItems()`: the time to fetch at with the items, and the handler after it. -/
def nextIngestItems (handler : DASHManifestHandler MPD) (call : NextIngestCall) :
    Except DomainError
      ((TimePoint × List PullObjectIngester.IngestItem) × DASHManifestHandler MPD) :=
  call.selectedSegmentAvailability.map fun reported =>
    let mediaSegments :=
      (reported ++ handler.extraPullObjects).map (·.notBefore call.currentTime)
    match sortSegments mediaSegments with
    | [] => ((0, []), handler)
    | first :: rest =>
        let fetchTime := first.availabilityStartTime
        let next := first :: rest.takeWhile (·.availabilityStartTime = fetchTime)
        ((fetchTime, next.mapIdx call.ingestItem),
          { handler with
            extraPullObjects :=
              next.foldl removeExtraPullObjectsEntry handler.extraPullObjects })

/-- `getDefaultDeadline()`, in nanoseconds. -/
def getDefaultDeadline : ℤ := 4000000000

end DASHManifestHandler

/-! ## What is taken -/

/-- The start of a segment, and not before the current time. -/
def SegmentAvailability.startFrom (currentTime : TimePoint) (segment : SegmentAvailability) :
    TimePoint :=
  max segment.availabilityStartTime currentTime

/-- The objects that become available first are taken, one item each, and nothing else; of
the extra objects one entry is removed for each item with its URL, and an extra object with
another URL stays. -/
structure TakesEarliest (call : NextIngestCall)
    (reported extraPullObjects : List SegmentAvailability) (fetchTime : TimePoint)
    (items : List PullObjectIngester.IngestItem) (remaining : List SegmentAvailability) :
    Prop where
  empty : items = [] ↔ reported = [] ∧ extraPullObjects = []
  earliest : items ≠ [] → IsLeast
    {time | ∃ segment ∈ reported ++ extraPullObjects,
      time = segment.startFrom call.currentTime} fetchTime
  taken : items = ((reported ++ extraPullObjects).filter fun segment =>
    segment.startFrom call.currentTime = fetchTime).mapIdx call.ingestItem
  kept : remaining.Sublist extraPullObjects
  removed : remaining.map SegmentAvailability.segmentURL =
    (extraPullObjects.map SegmentAvailability.segmentURL).diff
      (items.map PullObjectIngester.IngestItem.url)
  notDropped : ∀ segment ∈ extraPullObjects,
    segment.segmentURL ∉ items.map PullObjectIngester.IngestItem.url → segment ∈ remaining

namespace SegmentAvailability

variable (segment : SegmentAvailability) (currentTime : TimePoint)

theorem notBefore_start :
    (segment.notBefore currentTime).availabilityStartTime = segment.startFrom currentTime := by
  rw [notBefore, startFrom]
  split
  case isTrue hbefore => exact (max_eq_right hbefore.le).symm
  case isFalse hnot => exact (max_eq_left (not_lt.mp hnot)).symm

@[simp]
theorem notBefore_url : (segment.notBefore currentTime).segmentURL = segment.segmentURL := by
  rw [notBefore]
  split
  · rfl
  · rfl

@[simp]
theorem notBefore_end :
    (segment.notBefore currentTime).availabilityEndTime = segment.availabilityEndTime := by
  rw [notBefore]
  split
  · rfl
  · rfl

end SegmentAvailability

theorem ingestItem_notBefore (call : NextIngestCall) (made : ℕ) (segment : SegmentAvailability) :
    call.ingestItem made (segment.notBefore call.currentTime) = call.ingestItem made segment := by
  simp [NextIngestCall.ingestItem]

theorem rank_start (segment : SegmentAvailability) :
    DeadlineOrder.rank (fun segment => some segment.availabilityStartTime) segment =
      (segment.availabilityStartTime : WithTop TimePoint) := rfl

/-- The segments at the front of the sorted list, up to the first that starts later, are
all that start with the first one, in their order. -/
theorem takeWhile_sortSegments {segments : List SegmentAvailability} {first : SegmentAvailability}
    {rest : List SegmentAvailability} (hsort : sortSegments segments = first :: rest) :
    first :: rest.takeWhile (·.availabilityStartTime = first.availabilityStartTime) =
      segments.filter (·.availabilityStartTime = first.availabilityStartTime) := by
  have hsorted := DeadlineOrder.pairwise_sort
    (fun segment : SegmentAvailability => some segment.availabilityStartTime) segments
  rw [← sortSegments, hsort] at hsorted
  have hleast : ∀ segment ∈ first :: rest, (first.availabilityStartTime : WithTop TimePoint) ≤
      DeadlineOrder.rank (fun segment => some segment.availabilityStartTime) segment := by
    intro segment hsegment
    rcases List.mem_cons.mp hsegment with rfl | hbehind
    · exact le_rfl
    · exact (DeadlineOrder.inOrder_iff _).mp ((List.pairwise_cons.mp hsorted).1 segment hbehind)
  have hfront := DeadlineOrder.takeWhile_eq_filter _ hsorted hleast
  have hsame : ∀ left right : SegmentAvailability,
      decide (left.availabilityStartTime = first.availabilityStartTime) = true →
        decide (right.availabilityStartTime = first.availabilityStartTime) = true →
          DeadlineOrder.rank (fun segment => some segment.availabilityStartTime) left =
            DeadlineOrder.rank (fun segment => some segment.availabilityStartTime) right := by
    intro left right hleft hright
    rw [rank_start, rank_start, of_decide_eq_true hleft, of_decide_eq_true hright]
  have hstable := DeadlineOrder.filter_sort
    (fun segment : SegmentAvailability => some segment.availabilityStartTime) hsame segments
  rw [← sortSegments, hsort] at hstable
  simp only [rank_start, WithTop.coe_eq_coe] at hfront
  rw [← hstable, ← hfront, List.takeWhile_cons, if_pos (by simp)]

/-- The front of the sorted list starts first. -/
theorem sortSegments_least {segments : List SegmentAvailability} {first : SegmentAvailability}
    {rest : List SegmentAvailability} (hsort : sortSegments segments = first :: rest) :
    first ∈ segments ∧ ∀ segment ∈ segments,
      first.availabilityStartTime ≤ segment.availabilityStartTime := by
  have hperm := DeadlineOrder.sort_perm
    (fun segment : SegmentAvailability => some segment.availabilityStartTime) segments
  have hsorted := DeadlineOrder.pairwise_sort
    (fun segment : SegmentAvailability => some segment.availabilityStartTime) segments
  rw [← sortSegments, hsort] at hperm hsorted
  refine ⟨hperm.mem_iff.mp List.mem_cons_self, fun segment hsegment => ?_⟩
  rcases List.mem_cons.mp (hperm.mem_iff.mpr hsegment) with rfl | hbehind
  · exact le_rfl
  · have horder := (DeadlineOrder.inOrder_iff _).mp
      ((List.pairwise_cons.mp hsorted).1 segment hbehind)
    exact WithTop.coe_le_coe.mp horder

/-! ## What stays among the extra objects -/

theorem map_removeExtraPullObjectsEntry (extraPullObjects : List SegmentAvailability)
    (segment : SegmentAvailability) :
    (removeExtraPullObjectsEntry extraPullObjects segment).map SegmentAvailability.segmentURL =
      (extraPullObjects.map SegmentAvailability.segmentURL).erase segment.segmentURL := by
  rw [List.erase_eq_eraseP, List.eraseP_map, removeExtraPullObjectsEntry]
  congr 2
  funext entry
  rw [Function.comp_apply, Bool.beq_eq_decide_eq, decide_eq_decide]
  exact eq_comm

/-- One entry goes for each segment with its URL. -/
theorem map_foldl_removeExtraPullObjectsEntry (segments : List SegmentAvailability)
    (extraPullObjects : List SegmentAvailability) :
    (segments.foldl removeExtraPullObjectsEntry extraPullObjects).map
        SegmentAvailability.segmentURL =
      (extraPullObjects.map SegmentAvailability.segmentURL).diff
        (segments.map SegmentAvailability.segmentURL) := by
  induction segments generalizing extraPullObjects with
  | nil => rfl
  | cons segment segments ih =>
      rw [List.foldl_cons, ih, map_removeExtraPullObjectsEntry, List.map_cons, List.diff_cons]

theorem foldl_removeExtraPullObjectsEntry_sublist (segments : List SegmentAvailability)
    (extraPullObjects : List SegmentAvailability) :
    (segments.foldl removeExtraPullObjectsEntry extraPullObjects).Sublist extraPullObjects := by
  induction segments generalizing extraPullObjects with
  | nil => exact List.Sublist.refl _
  | cons segment segments ih => exact (ih _).trans List.eraseP_sublist

theorem mem_foldl_removeExtraPullObjectsEntry {segments : List SegmentAvailability}
    {extraPullObjects : List SegmentAvailability} {extra : SegmentAvailability}
    (hextra : extra ∈ extraPullObjects)
    (hurl : extra.segmentURL ∉ segments.map SegmentAvailability.segmentURL) :
    extra ∈ segments.foldl removeExtraPullObjectsEntry extraPullObjects := by
  induction segments generalizing extraPullObjects with
  | nil => exact hextra
  | cons segment segments ih =>
      rw [List.map_cons, List.mem_cons, not_or] at hurl
      refine ih ?_ hurl.2
      exact (List.mem_eraseP_of_neg (by simpa using hurl.1)).mpr hextra

/-! ## A round of the worker -/

namespace DASHManifestHandler

variable {MPD : Type}

/-- The segments that are taken, as they were reported or kept. -/
theorem filter_notBefore (call : NextIngestCall) (segments : List SegmentAvailability)
    (fetchTime : TimePoint) :
    (segments.map (·.notBefore call.currentTime)).filter (·.availabilityStartTime = fetchTime) =
      (segments.filter fun segment => segment.startFrom call.currentTime = fetchTime).map
        (·.notBefore call.currentTime) := by
  rw [List.filter_map]
  congr 2
  funext segment
  rw [Function.comp_apply, segment.notBefore_start]

theorem mapIdx_ingestItem_notBefore (call : NextIngestCall) (segments : List SegmentAvailability) :
    (segments.map (·.notBefore call.currentTime)).mapIdx call.ingestItem =
      segments.mapIdx call.ingestItem := by
  apply List.ext_getElem?
  intro index
  rw [List.getElem?_mapIdx, List.getElem?_mapIdx, List.getElem?_map, Option.map_map]
  congr 1
  funext segment
  exact ingestItem_notBefore call index segment

/-- The items have the URLs of the segments. -/
theorem map_url_mapIdx_ingestItem (call : NextIngestCall) (segments : List SegmentAvailability) :
    (segments.mapIdx call.ingestItem).map PullObjectIngester.IngestItem.url =
      segments.map SegmentAvailability.segmentURL := by
  apply List.ext_getElem?
  intro index
  rw [List.getElem?_map, List.getElem?_mapIdx, List.getElem?_map, Option.map_map]
  rfl

variable {handler : DASHManifestHandler MPD} {call : NextIngestCall}
  {reported : List SegmentAvailability}

theorem nextIngestItems_of_nil (hreported : call.selectedSegmentAvailability = .ok reported)
    (hsort : sortSegments
      ((reported ++ handler.extraPullObjects).map (·.notBefore call.currentTime)) = []) :
    handler.nextIngestItems call = .ok ((0, []), handler) := by
  simp only [nextIngestItems, hreported, Except.map, hsort]

theorem nextIngestItems_of_cons {first : SegmentAvailability} {rest : List SegmentAvailability}
    (hreported : call.selectedSegmentAvailability = .ok reported)
    (hsort : sortSegments
      ((reported ++ handler.extraPullObjects).map (·.notBefore call.currentTime)) =
        first :: rest) :
    let taken := (reported ++ handler.extraPullObjects).filter fun segment =>
      segment.startFrom call.currentTime = first.availabilityStartTime
    handler.nextIngestItems call =
      .ok ((first.availabilityStartTime, taken.mapIdx call.ingestItem),
        { handler with
          extraPullObjects :=
            (taken.map (·.notBefore call.currentTime)).foldl removeExtraPullObjectsEntry
              handler.extraPullObjects }) := by
  intro taken
  have htaken : first :: rest.takeWhile (·.availabilityStartTime = first.availabilityStartTime) =
      taken.map (·.notBefore call.currentTime) :=
    (takeWhile_sortSegments hsort).trans (filter_notBefore call _ first.availabilityStartTime)
  simp only [nextIngestItems, hreported, Except.map, hsort, htaken,
    mapIdx_ingestItem_notBefore]

/-- What `nextIngestItems()` returns and leaves, when libmpd++ answers. -/
theorem nextIngestItems_takesEarliest (handler : DASHManifestHandler MPD)
    (hreported : call.selectedSegmentAvailability = .ok reported) :
    ∃ fetchTime items next,
      handler.nextIngestItems call = .ok ((fetchTime, items), next) ∧
      TakesEarliest call reported handler.extraPullObjects fetchTime items
        next.extraPullObjects := by
  cases hsort : sortSegments
      ((reported ++ handler.extraPullObjects).map (·.notBefore call.currentTime)) with
  | nil =>
      have hperm := DeadlineOrder.sort_perm
        (fun segment : SegmentAvailability => some segment.availabilityStartTime)
        ((reported ++ handler.extraPullObjects).map (·.notBefore call.currentTime))
      rw [← sortSegments, hsort] at hperm
      obtain ⟨hfirst, hsecond⟩ :=
        List.append_eq_nil_iff.mp (List.map_eq_nil_iff.mp hperm.symm.eq_nil)
      refine ⟨0, [], handler, nextIngestItems_of_nil hreported hsort, ?_⟩
      rw [hfirst, hsecond]
      exact ⟨by simp, fun hne => absurd rfl hne, rfl, List.Sublist.refl _, rfl,
        fun segment hsegment => absurd hsegment List.not_mem_nil⟩
  | cons first rest =>
      obtain ⟨hfirst, hleast⟩ := sortSegments_least hsort
      obtain ⟨source, hsource, rfl⟩ := List.mem_map.mp hfirst
      have hearliest : ∀ segment ∈ reported ++ handler.extraPullObjects,
          source.startFrom call.currentTime ≤ segment.startFrom call.currentTime := by
        intro segment hsegment
        have hstart := hleast _ (List.mem_map_of_mem hsegment)
        rwa [source.notBefore_start, segment.notBefore_start] at hstart
      refine ⟨_, _, _, nextIngestItems_of_cons hreported hsort, ?_⟩
      simp only [source.notBefore_start]
      have htaken : source ∈ (reported ++ handler.extraPullObjects).filter fun segment =>
          segment.startFrom call.currentTime = source.startFrom call.currentTime :=
        List.mem_filter.mpr ⟨hsource, decide_eq_true rfl⟩
      have hurls := map_url_mapIdx_ingestItem call
        ((reported ++ handler.extraPullObjects).filter fun segment =>
          segment.startFrom call.currentTime = source.startFrom call.currentTime)
      have hsegments : ∀ segments : List SegmentAvailability,
          (segments.map (·.notBefore call.currentTime)).map SegmentAvailability.segmentURL =
            segments.map SegmentAvailability.segmentURL := by
        intro segments
        simp
      refine ⟨?_, fun _ => ⟨⟨source, hsource, rfl⟩, ?_⟩, rfl, ?_, ?_, ?_⟩
      · rw [List.mapIdx_eq_nil_iff, ← List.append_eq_nil_iff]
        exact iff_of_false (List.ne_nil_of_mem htaken) (List.ne_nil_of_mem hsource)
      · rintro time ⟨segment, hsegment, rfl⟩
        exact hearliest segment hsegment
      · exact foldl_removeExtraPullObjectsEntry_sublist _ _
      · rw [map_foldl_removeExtraPullObjectsEntry, hsegments, hurls]
      · intro extra hextra hurl
        rw [hurls, ← hsegments] at hurl
        exact mem_foldl_removeExtraPullObjectsEntry hextra hurl

end DASHManifestHandler

/-! ## A round of `workerLoop` -/

/-- What one turn of the second loop of `workerLoop` meets: the call of the handler; the
clock at `sleep_until`, how much too long that sleeps, and how much later each item is
handed out with so many behind it; and whether libcurl gives a new ingester its handle. -/
structure WorkerRound where
  call : NextIngestCall
  sleepFrom : TimePoint
  overslept : ℕ
  elapsed : ℕ → ℕ
  hasHandle : Bool

/-- When `std::this_thread::sleep_until(fetch_time)` returns. -/
def WorkerRound.wakeUp (round : WorkerRound) (fetchTime : TimePoint) : TimePoint :=
  max round.sleepFrom fetchTime + round.overslept

theorem WorkerRound.le_wakeUp (round : WorkerRound) (fetchTime : TimePoint) :
    fetchTime ≤ round.wakeUp fetchTime :=
  calc fetchTime ≤ max round.sleepFrom fetchTime := le_max_right _ _
    _ ≤ round.wakeUp fetchTime := le_add_of_nonneg_right (Nat.cast_nonneg _)

/-- The turn with what the handler has returned; after the exception the items are those of
a value that nothing was assigned to. -/
def WorkerRound.pullRound (round : WorkerRound)
    (answer : Except DomainError (TimePoint × List PullObjectIngester.IngestItem)) :
    PullRound where
  nextIngestItems := answer
  now := fun behind =>
    round.wakeUp (answer.toOption.elim 0 Prod.fst) + round.elapsed behind
  defaultDeadline := DASHManifestHandler.getDefaultDeadline
  hasHandle := round.hasHandle

/-- Each item goes to the ingester at its own place in the list, at a time that is not
before the fetch time, and all other ingesters stay as they are; ingesters are only made
where there are more items. -/
structure HandsOut (round : WorkerRound) (fetchTime : TimePoint)
    (items : List PullObjectIngester.IngestItem) (before after : List PullObjectIngester) :
    Prop where
  length : after.length = max before.length items.length
  handed : ∀ (index : ℕ) (item : PullObjectIngester.IngestItem), items[index]? = some item →
    ∃ time : TimePoint, fetchTime ≤ time ∧
      after[index]? =
        some ((before[index]?.getD (PullObjectIngester.new round.hasHandle [])).fetch
          { item with deadline := some (time + DASHManifestHandler.getDefaultDeadline) })
  others : ∀ index : ℕ, items[index]? = none → after[index]? = before[index]?

theorem length_handOut (round : PullRound) (ingesters : List PullObjectIngester)
    (items : List PullObjectIngester.IngestItem) :
    (handOut round ingesters items).length = ingesters.length := by
  induction ingesters generalizing items with
  | nil =>
      rw [handOut]
  | cons ingester ingesters ih =>
      cases items with
      | nil => rfl
      | cons item items => rw [handOut, List.length_cons, ih, List.length_cons]

/-- The item at a place goes to the ingester there. -/
theorem getElem?_handOut_of_some (round : PullRound) {ingesters : List PullObjectIngester}
    {items : List PullObjectIngester.IngestItem} {index : ℕ}
    {ingester : PullObjectIngester} {item : PullObjectIngester.IngestItem}
    (hingester : ingesters[index]? = some ingester) (hitem : items[index]? = some item) :
    ∃ behind, (handOut round ingesters items)[index]? = some (ingester.fetch
      { item with deadline := some (round.now behind + round.defaultDeadline) }) := by
  induction index generalizing ingesters items with
  | zero =>
      rw [← List.head?_eq_getElem?] at hingester hitem
      obtain ⟨ingesters, rfl⟩ := List.head?_eq_some_iff.mp hingester
      obtain ⟨items, rfl⟩ := List.head?_eq_some_iff.mp hitem
      exact ⟨items.length, rfl⟩
  | succ index ih =>
      cases ingesters with
      | nil => cases hingester
      | cons first ingesters =>
          cases items with
          | nil => cases hitem
          | cons other items => exact ih hingester hitem

theorem getElem?_handOut_of_none (round : PullRound) (ingesters : List PullObjectIngester)
    {items : List PullObjectIngester.IngestItem} {index : ℕ} (hitem : items[index]? = none) :
    (handOut round ingesters items)[index]? = ingesters[index]? := by
  induction index generalizing ingesters items with
  | zero =>
      have hempty : items = [] := by simpa using hitem
      subst hempty
      cases ingesters with
      | nil => rfl
      | cons ingester ingesters => rfl
  | succ index ih =>
      cases ingesters with
      | nil => rfl
      | cons ingester ingesters =>
          cases items with
          | nil => rfl
          | cons item items => exact ih ingesters hitem

namespace Pulling

/-- A round that finds something to pull hands it out, whatever ingesters there are. -/
theorem pull_handsOut {pulling : Pulling} (round : WorkerRound) {fetchTime : TimePoint}
    {items : List PullObjectIngester.IngestItem} (hcancel : pulling.scheduledPullCancel = false)
    (hitems : items ≠ []) :
    HandsOut round fetchTime items pulling.pullIngesters
      (pulling.pull (round.pullRound (.ok (fetchTime, items)))).pullIngesters := by
  let pool := pulling.pullIngesters ++
    List.replicate (items.length - pulling.pullIngesters.length)
      (PullObjectIngester.new round.hasHandle [])
  have hpull : (pulling.pull (round.pullRound (.ok (fetchTime, items)))).pullIngesters =
      handOut (round.pullRound (.ok (fetchTime, items))) pool items := by
    rw [pull, if_neg (by simp [hcancel, PullRound.items, WorkerRound.pullRound, hitems])]
    rfl
  have hlength : pool.length = max pulling.pullIngesters.length items.length := by
    rw [List.length_append, List.length_replicate]
    omega
  have hpool : ∀ index, index < pool.length → pool[index]? =
      some (pulling.pullIngesters[index]?.getD
        (PullObjectIngester.new round.hasHandle [])) := by
    intro index hindex
    by_cases hold : index < pulling.pullIngesters.length
    · rw [List.getElem?_append_left hold, List.getElem?_eq_getElem hold, Option.getD_some]
    · have hnew : index - pulling.pullIngesters.length <
          items.length - pulling.pullIngesters.length := by omega
      rw [List.getElem?_append_right (not_lt.mp hold), List.getElem?_replicate, if_pos hnew,
        List.getElem?_eq_none (not_lt.mp hold), Option.getD_none]
  rw [hpull]
  refine ⟨(length_handOut _ _ _).trans hlength, ?_, ?_⟩
  · intro index item hitem
    have hindex : index < items.length := (List.getElem?_eq_some_iff.mp hitem).1
    obtain ⟨behind, hhanded⟩ := getElem?_handOut_of_some
      (round.pullRound (.ok (fetchTime, items))) (hpool index (by omega)) hitem
    refine ⟨_, ?_, hhanded⟩
    exact (round.le_wakeUp fetchTime).trans (le_add_of_nonneg_right (Nat.cast_nonneg _))
  · intro index hnone
    rw [getElem?_handOut_of_none _ _ hnone]
    by_cases hold : index < pulling.pullIngesters.length
    · exact List.getElem?_append_left hold
    · have hbeyond : items.length ≤ index := List.getElem?_eq_none_iff.mp hnone
      rw [List.getElem?_eq_none (not_lt.mp hold), List.getElem?_eq_none (by omega)]

end Pulling

/-- A scheduling round takes the objects that become available first, and loses none: for
any list from libmpd++, any extra objects and any time, what the handler returns is taken
from both as it should be, and the worker hands all of it out, one item to an ingester and
none before the fetch time, however many ingesters there are. -/
theorem scheduling_round {MPD : Type} (handler : DASHManifestHandler MPD) (round : WorkerRound)
    {reported : List SegmentAvailability}
    (hreported : round.call.selectedSegmentAvailability = .ok reported) :
    ∃ fetchTime items next,
      handler.nextIngestItems round.call = .ok ((fetchTime, items), next) ∧
      TakesEarliest round.call reported handler.extraPullObjects fetchTime items
        next.extraPullObjects ∧
      ∀ pulling : Pulling, pulling.scheduledPullCancel = false → items ≠ [] →
        HandsOut round fetchTime items pulling.pullIngesters
          (pulling.pull (round.pullRound
            ((handler.nextIngestItems round.call).map Prod.fst))).pullIngesters := by
  obtain ⟨fetchTime, items, next, hnext, htakes⟩ :=
    handler.nextIngestItems_takesEarliest hreported
  refine ⟨fetchTime, items, next, hnext, htakes, fun pulling hcancel hitems => ?_⟩
  rw [hnext]
  exact Pulling.pull_handsOut round hcancel hitems

/-- One segment that is due, and one that is not. -/
def dueSegments : List SegmentAvailability :=
  [⟨900, 2, "http://example.com/1.mp4", none⟩, ⟨3000, 2, "http://example.com/2.mp4", none⟩]

def dueRound : WorkerRound where
  call := {
    selectedSegmentAvailability := .ok dueSegments
    currentTime := 1000
    nextObjectId := fun made => toString made
    objIngestBaseUrl := none
    objDistributionBaseUrl := none }
  sleepFrom := 1001
  overslept := 3
  elapsed := fun _ => 0
  hasHandle := true

/-- The initialisation segment is due as well. -/
def dueHandler : DASHManifestHandler Unit where
  pullDistribution := true
  mpd := ()
  manifest := "manifest"
  extraPullObjects := [⟨0, 0, "http://example.com/init.mp4", none⟩]

theorem scheduling_round_due :
    ∃ fetchTime items next,
      dueHandler.nextIngestItems dueRound.call = .ok ((fetchTime, items), next) ∧
      TakesEarliest dueRound.call dueSegments dueHandler.extraPullObjects fetchTime items
        next.extraPullObjects ∧
      ∀ pulling : Pulling, pulling.scheduledPullCancel = false → items ≠ [] →
        HandsOut dueRound fetchTime items pulling.pullIngesters
          (pulling.pull (dueRound.pullRound
            ((dueHandler.nextIngestItems dueRound.call).map Prod.fst))).pullIngesters :=
  scheduling_round dueHandler dueRound rfl

end Mbstf.Controller
