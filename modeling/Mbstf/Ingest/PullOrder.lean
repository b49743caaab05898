import Mbstf.Core.Runs
import Mbstf.Ingest.PullIngester

/-!
# The order of the pulls

The list of a pull ingester is sorted by deadline whenever something is put into it or a
deadline is changed, and the worker takes its front.  Here each item carries the number of
its arrival, and whether its deadline was ever changed, so that the order can be told among
items that are alike; and the books are kept of all that is supplied and all that is taken.
-/

namespace Mbstf.Ingest

open Mbstf.Objects Mbstf.Runs Mbstf.Session

namespace PullObjectIngester

/-- There is an item for the object in the list. -/
def Pending (ingester : PullObjectIngester) (objectId : String) : Prop :=
  ∃ item ∈ ingester.fetchList, item.objectId = objectId

instance (ingester : PullObjectIngester) (objectId : String) :
    Decidable (ingester.Pending objectId) :=
  inferInstanceAs (Decidable (∃ item ∈ _, _))

/-- An item in the list, with what is remembered of it. -/
structure Arrival where
  item : IngestItem
  number : ℕ
  changed : Bool

namespace Arrival

def deadline (arrival : Arrival) : Option TimePoint := arrival.item.deadline

/-- The deadline is replaced by one that is given. -/
def postponed (arrival : Arrival) (downloadDeadline : Option TimePoint) : Arrival where
  item := { arrival.item with deadline := downloadDeadline.or arrival.item.deadline }
  number := arrival.number
  changed := arrival.changed || (downloadDeadline.or arrival.item.deadline ≠ arrival.item.deadline)

/-- The first item for the object gets the deadline. -/
def postpone (objectId : String) (downloadDeadline : Option TimePoint) :
    List Arrival → List Arrival
  | [] => []
  | arrival :: rest =>
      if arrival.item.objectId = objectId then arrival.postponed downloadDeadline :: rest
      else arrival :: postpone objectId downloadDeadline rest

/-- Items whose deadlines were never changed are in the order they came in. -/
def InTurn (left right : Arrival) : Prop :=
  left.changed = false → right.changed = false → left.number < right.number

/-- The order of the list: by deadline, with none last, and by arrival where the deadlines
are alike and were never changed. -/
def Queued (left right : Arrival) : Prop :=
  DeadlineOrder.InOrder deadline left right ∧
    (DeadlineOrder.rank deadline left = DeadlineOrder.rank deadline right → InTurn left right)

end Arrival

/-- At least a millisecond is left for the item. -/
def IngestItem.TimeLeft (item : IngestItem) (now : TimePoint) : Prop :=
  ∀ deadline, item.deadline = some deadline → 1000000 ≤ deadline - now

/-- A round that ended: the item it had, and the ingester and the store before and after
the mutex was free. -/
structure Settlement where
  item : IngestItem
  round : Round
  before : PullObjectIngester
  objects : ObjectStore
  after : PullObjectIngester
  stored : ObjectStore

namespace Settlement

/-- The item was passed to libcurl in time, and what libcurl received, if it received it,
was added to the store under the id of the item. -/
def Downloaded (settlement : Settlement) : Prop :=
  settlement.item.TimeLeft settlement.round.now ∧ ∃ curl bytesReceived,
    settlement.before.curl.get (settlement.round.transferOf settlement.item) =
      .ok (curl, bytesReceived) ∧
    settlement.stored =
      if 0 ≤ bytesReceived then
        settlement.objects.addObject settlement.item.objectId curl.receivedData
          (objectMetadata settlement.item curl settlement.round)
      else settlement.objects

/-- There was no time left, and nothing was downloaded. -/
def Dropped (settlement : Settlement) : Prop :=
  ¬ settlement.item.TimeLeft settlement.round.now ∧
    settlement.after.curl = settlement.before.curl ∧ settlement.stored = settlement.objects

/-- The item was the one in hand, which is given up, and it was downloaded or dropped. -/
structure Sound (settlement : Settlement) : Prop where
  inHand : settlement.before.fetching = some settlement.item
  givenUp : settlement.after.fetching = none
  outcome : settlement.Downloaded ∨ settlement.Dropped

end Settlement

/-- An ingester at work.  `waiting` is its list with what is remembered of the items,
`arrivals` the number of items so far, `supplied` are the ids of all of them, and `settled`
are the rounds that ended. -/
structure Attended where
  ingester : PullObjectIngester
  waiting : List Arrival
  arrivals : ℕ
  supplied : List String
  settled : List Settlement

/-- The calls of other threads, with the store as it is then, and the two parts of a round
of the worker: until it releases the mutex, and the rest. -/
inductive Attendance where
  /-- `fetch(const IngestItem&)` and `fetch(IngestItem&&)`. -/
  | fetch (item : IngestItem)
  | fetchAgain (objects : ObjectStore) (objectId : String) (downloadDeadline : Option TimePoint)
  | take
  | finish (objects : ObjectStore) (round : Round)

namespace Attended

/-- The constructors. -/
def start (hasHandle : Bool) (items : List IngestItem) : Attended where
  ingester := .new hasHandle items
  waiting := DeadlineOrder.sort Arrival.deadline
    (items.mapIdx fun number item => ⟨item, number, false⟩)
  arrivals := items.length
  supplied := items.map IngestItem.objectId
  settled := []

/-- A new item has come in. -/
def add (attended : Attended) (ingester : PullObjectIngester) (item : IngestItem) : Attended :=
  { attended with
    ingester := ingester
    waiting := DeadlineOrder.sort Arrival.deadline
      (attended.waiting ++ [⟨item, attended.arrivals, false⟩])
    arrivals := attended.arrivals + 1
    supplied := attended.supplied ++ [item.objectId] }

/-- A call of the third `fetch` that has returned. -/
def addAgain (attended : Attended) (objects : ObjectStore) (objectId : String)
    (downloadDeadline : Option TimePoint) (ingester : PullObjectIngester) : Attended :=
  if attended.ingester.Pending objectId then
    { attended with
      ingester := ingester
      waiting := DeadlineOrder.sort Arrival.deadline
        (Arrival.postpone objectId downloadDeadline attended.waiting) }
  else
    match objects.getMetadata objectId with
    | .ok metadata => attended.add ingester (.ofMetadata metadata downloadDeadline)
    | .error _ => attended

/-- One step.  An exception of the third `fetch` goes to its caller; one of a download ends
the program. -/
def step (attended : Attended) : Attendance → Option Attended
  | .fetch item => some (attended.add (attended.ingester.fetch item) item)
  | .fetchAgain objects objectId downloadDeadline =>
      match attended.ingester.fetchAgain objects objectId downloadDeadline with
      | .ok ingester => some (attended.addAgain objects objectId downloadDeadline ingester)
      | .error _ => some attended
  | .take =>
      if attended.ingester.fetching.isNone then
        some { attended with
          ingester := attended.ingester.take, waiting := attended.waiting.tail }
      else none
  | .finish objects round =>
      attended.ingester.fetching.bind fun item =>
        (attended.ingester.ingest objects round).toOption.map fun (ingester, stored) =>
          { attended with
            ingester := ingester
            settled := attended.settled ++
              [⟨item, round, attended.ingester, objects, ingester, stored⟩] }

/-- The items that were taken: those the worker is done with, and the one it has. -/
def taken (attended : Attended) : List IngestItem :=
  attended.settled.map Settlement.item ++ attended.ingester.fetching.toList

/-- The books are right: what is remembered belongs to the items of the list, which are in
order, and what was supplied is what is waiting and what was taken. -/
structure Books (attended : Attended) : Prop where
  waiting : attended.waiting.map Arrival.item = attended.ingester.fetchList
  queued : attended.waiting.Pairwise Arrival.Queued
  numbers : ∀ arrival ∈ attended.waiting, arrival.number < attended.arrivals
  supplied : attended.supplied.Perm
    ((attended.ingester.fetchList ++ attended.taken).map IngestItem.objectId)
  settled : ∀ settlement ∈ attended.settled, settlement.Sound

end Attended

/-! ## What is remembered of the items -/

namespace Arrival

/-- A deadline that is not changed is the one there was. -/
theorem postponed_of_unchanged {arrival : Arrival} {downloadDeadline : Option TimePoint}
    (hchanged : (arrival.postponed downloadDeadline).changed = false) :
    arrival.postponed downloadDeadline = arrival := by
  obtain ⟨hbefore, hdeadline⟩ := Bool.or_eq_false_iff.mp hchanged
  have hsame : downloadDeadline.or arrival.item.deadline = arrival.item.deadline := by
    simpa using hdeadline
  have hunchanged : (arrival.postponed downloadDeadline).changed = arrival.changed :=
    hchanged.trans hbefore.symm
  calc arrival.postponed downloadDeadline
      = ⟨arrival.item, arrival.number, arrival.changed⟩ := by
        rw [← hunchanged, postponed, hsame]
    _ = arrival := rfl

theorem mem_postpone {objectId : String} {downloadDeadline : Option TimePoint}
    {arrivals : List Arrival} {arrival : Arrival}
    (harrival : arrival ∈ postpone objectId downloadDeadline arrivals) :
    ∃ before ∈ arrivals, arrival.number = before.number ∧
      (arrival.changed = false → arrival = before) := by
  induction arrivals with
  | nil => cases harrival
  | cons first rest ih =>
      rw [postpone] at harrival
      split at harrival
      · rcases List.mem_cons.mp harrival with rfl | hrest
        · exact ⟨first, List.mem_cons_self, rfl, postponed_of_unchanged⟩
        · exact ⟨arrival, List.mem_cons_of_mem first hrest, rfl, fun _ => rfl⟩
      · rcases List.mem_cons.mp harrival with rfl | hrest
        · exact ⟨arrival, List.mem_cons_self, rfl, fun _ => rfl⟩
        · obtain ⟨before, hbefore, hsame⟩ := ih hrest
          exact ⟨before, List.mem_cons_of_mem first hbefore, hsame⟩

theorem map_item_postpone (objectId : String) (downloadDeadline : Option TimePoint)
    (arrivals : List Arrival) :
    (postpone objectId downloadDeadline arrivals).map item =
      PullObjectIngester.postpone objectId downloadDeadline (arrivals.map item) := by
  induction arrivals with
  | nil => rfl
  | cons first rest ih =>
      rw [postpone, List.map_cons, PullObjectIngester.postpone]
      split
      · rfl
      · rw [List.map_cons, ih]

/-- Items of which one is changed are in turn whatever their numbers are. -/
theorem pairwise_postpone {objectId : String} {downloadDeadline : Option TimePoint}
    {arrivals : List Arrival}
    (harrivals : arrivals.Pairwise fun left right =>
      DeadlineOrder.rank deadline left = DeadlineOrder.rank deadline right → InTurn left right) :
    (postpone objectId downloadDeadline arrivals).Pairwise fun left right =>
      DeadlineOrder.rank deadline left = DeadlineOrder.rank deadline right →
        InTurn left right := by
  induction arrivals with
  | nil => exact List.Pairwise.nil
  | cons first rest ih =>
      obtain ⟨hfirst, hrest⟩ := List.pairwise_cons.mp harrivals
      rw [postpone]
      split
      · refine List.pairwise_cons.mpr ⟨?_, hrest⟩
        intro right hright halike hleft
        have hsame := postponed_of_unchanged hleft
        rw [hsame] at halike hleft ⊢
        exact hfirst right hright halike hleft
      · refine List.pairwise_cons.mpr ⟨?_, ih hrest⟩
        intro right hright halike hleft hunchanged
        obtain ⟨before, hbefore, -, hsame⟩ := mem_postpone hright
        obtain rfl := hsame hunchanged
        exact hfirst right hbefore halike hleft hunchanged

/-- Items in turn are queued when they are sorted. -/
theorem queued_sort {arrivals : List Arrival}
    (harrivals : arrivals.Pairwise fun left right =>
      DeadlineOrder.rank deadline left = DeadlineOrder.rank deadline right → InTurn left right) :
    (DeadlineOrder.sort deadline arrivals).Pairwise Queued :=
  (DeadlineOrder.pairwise_sort deadline arrivals).and
    (DeadlineOrder.pairwise_sort_alike deadline harrivals)

theorem map_item_sort (arrivals : List Arrival) :
    (DeadlineOrder.sort deadline arrivals).map item = sortListByPolicy (arrivals.map item) :=
  DeadlineOrder.map_sort IngestItem.deadline item arrivals

theorem mem_sort {arrivals : List Arrival} {arrival : Arrival} :
    arrival ∈ DeadlineOrder.sort deadline arrivals ↔ arrival ∈ arrivals :=
  (DeadlineOrder.sort_perm deadline arrivals).mem_iff

end Arrival

theorem map_objectId_postpone (objectId : String) (downloadDeadline : Option TimePoint)
    (items : List IngestItem) :
    (postpone objectId downloadDeadline items).map IngestItem.objectId =
      items.map IngestItem.objectId := by
  induction items with
  | nil => rfl
  | cons first rest ih =>
      rw [postpone]
      split
      · rfl
      · rw [List.map_cons, List.map_cons, ih]

theorem sortListByPolicy_perm (items : List IngestItem) : (sortListByPolicy items).Perm items :=
  DeadlineOrder.sort_perm IngestItem.deadline items

theorem tdiv_pos_iff (duration : ℤ) : 0 < duration.tdiv 1000000 ↔ 1000000 ≤ duration := by
  rcases le_or_gt 0 duration with hnonneg | hneg
  · rw [Int.tdiv_eq_ediv_of_nonneg hnonneg]
    omega
  · have hopposite := Int.neg_tdiv duration 1000000
    rw [Int.tdiv_eq_ediv_of_nonneg (by omega)] at hopposite
    omega

/-- The worker downloads an item unless less than a millisecond is left for it. -/
theorem timeout_pos_iff (item : IngestItem) (now : TimePoint) :
    0 < timeout item now ↔ item.TimeLeft now := by
  rw [timeout, IngestItem.TimeLeft]
  cases item.deadline with
  | none => simp
  | some deadline =>
      simp only [Option.some.injEq, forall_eq']
      exact tdiv_pos_iff (deadline - now)

section

variable {ingester after : PullObjectIngester} {objects stored : ObjectStore} {round : Round}
  {item : IngestItem}

/-- The rest of a round downloads the item in hand, or drops it, and leaves the list. -/
theorem ingest_sound (hfetching : ingester.fetching = some item)
    (hingest : ingester.ingest objects round = .ok (after, stored)) :
    (Settlement.mk item round ingester objects after stored).Sound ∧
      after.fetchList = ingester.fetchList := by
  simp only [ingest, hfetching] at hingest
  by_cases htime : item.TimeLeft round.now
  · rw [if_pos ((timeout_pos_iff item round.now).mpr htime)] at hingest
    obtain ⟨⟨curl, bytesReceived⟩, hget, hafter⟩ := Folds.map_eq_ok hingest
    dsimp only at hafter
    by_cases hreceived : 0 ≤ bytesReceived
    · rw [if_pos hreceived] at hafter
      obtain ⟨rfl, rfl⟩ := Prod.mk.inj hafter
      exact ⟨⟨hfetching, rfl, .inl ⟨htime, curl, bytesReceived, hget, (if_pos hreceived).symm⟩⟩,
        rfl⟩
    · rw [if_neg hreceived] at hafter
      obtain ⟨rfl, rfl⟩ := Prod.mk.inj hafter
      exact ⟨⟨hfetching, rfl, .inl ⟨htime, curl, bytesReceived, hget, (if_neg hreceived).symm⟩⟩,
        rfl⟩
  · rw [if_neg (fun hpos => htime ((timeout_pos_iff item round.now).mp hpos))] at hingest
    obtain ⟨rfl, rfl⟩ := Prod.mk.inj (Except.ok.inj hingest)
    exact ⟨⟨hfetching, rfl, .inr ⟨htime, rfl, rfl⟩⟩, rfl⟩

end

section

variable {ingester : PullObjectIngester} {objectId : String}

theorem fetchAgain_of_pending (hpending : ingester.Pending objectId) {objects : ObjectStore}
    {downloadDeadline : Option TimePoint} :
    ingester.fetchAgain objects objectId downloadDeadline =
      .ok { ingester with
        fetchList := sortListByPolicy
          (postpone objectId downloadDeadline ingester.fetchList) } := by
  rw [fetchAgain, if_pos]
  simpa [Pending] using hpending

theorem fetchAgain_of_not_pending (hpending : ¬ ingester.Pending objectId)
    {objects : ObjectStore} {downloadDeadline : Option TimePoint} :
    ingester.fetchAgain objects objectId downloadDeadline =
      (objects.getMetadata objectId).map fun metadata =>
        ingester.fetch (.ofMetadata metadata downloadDeadline) := by
  rw [fetchAgain, if_neg]
  simpa [Pending] using hpending

end

/-! ## The books are kept -/

namespace Attended

variable {attended : Attended}

/-- The list of what waits comes out of a new item, and what is in hand stays. -/
theorem Books.add (hbooks : attended.Books) {ingester : PullObjectIngester} {item : IngestItem}
    (hlist : ingester.fetchList = sortListByPolicy (attended.ingester.fetchList ++ [item]))
    (hfetching : ingester.fetching = attended.ingester.fetching) :
    (attended.add ingester item).Books := by
  refine ⟨?_, ?_, ?_, ?_, hbooks.settled⟩
  · rw [Attended.add, Arrival.map_item_sort, List.map_append, hbooks.waiting, hlist]
    rfl
  · apply Arrival.queued_sort
    rw [List.pairwise_append]
    refine ⟨hbooks.queued.imp fun hqueued => hqueued.2, List.pairwise_singleton _ _, ?_⟩
    intro left hleft right hright _ _ _
    obtain rfl := List.mem_singleton.mp hright
    exact hbooks.numbers left hleft
  · intro arrival harrival
    rw [Attended.add, Arrival.mem_sort, List.mem_append] at harrival
    rcases harrival with hold | hnew
    · exact (hbooks.numbers arrival hold).trans (Nat.lt_succ_self _)
    · obtain rfl := List.mem_singleton.mp hnew
      exact Nat.lt_succ_self _
  · have htaken : (attended.add ingester item).taken = attended.taken := by
      rw [taken, taken, Attended.add, hfetching]
    have hwaiting : ingester.fetchList.Perm (attended.ingester.fetchList ++ [item]) :=
      hlist ▸ sortListByPolicy_perm _
    have hsupplied : (attended.supplied ++ [item.objectId]).Perm
        ((attended.ingester.fetchList ++ attended.taken ++ [item]).map IngestItem.objectId) := by
      rw [List.map_append]
      exact hbooks.supplied.append_right _
    have hmoved : (attended.ingester.fetchList ++ attended.taken ++ [item]).Perm
        (attended.ingester.fetchList ++ [item] ++ attended.taken) := by
      rw [List.append_assoc, List.append_assoc]
      exact List.perm_append_comm.append_left _
    rw [htaken]
    exact hsupplied.trans ((hmoved.trans (hwaiting.symm.append_right _)).map _)

/-- A changed deadline moves an item, and adds and takes none. -/
theorem Books.postpone (hbooks : attended.Books) {objectId : String}
    {downloadDeadline : Option TimePoint} {ingester : PullObjectIngester}
    (hlist : ingester.fetchList = sortListByPolicy
      (PullObjectIngester.postpone objectId downloadDeadline attended.ingester.fetchList))
    (hfetching : ingester.fetching = attended.ingester.fetching) :
    Books { attended with
      ingester := ingester
      waiting := DeadlineOrder.sort Arrival.deadline
        (Arrival.postpone objectId downloadDeadline attended.waiting) } := by
  refine ⟨?_, ?_, ?_, ?_, hbooks.settled⟩
  · rw [Arrival.map_item_sort, Arrival.map_item_postpone, hbooks.waiting, hlist]
  · exact Arrival.queued_sort (Arrival.pairwise_postpone
      (hbooks.queued.imp fun hqueued => hqueued.2))
  · intro arrival harrival
    rw [Arrival.mem_sort] at harrival
    obtain ⟨before, hbefore, hnumber, -⟩ := Arrival.mem_postpone harrival
    rw [hnumber]
    exact hbooks.numbers before hbefore
  · have hsame : (ingester.fetchList.map IngestItem.objectId).Perm
        (attended.ingester.fetchList.map IngestItem.objectId) := by
      rw [← map_objectId_postpone objectId downloadDeadline attended.ingester.fetchList, hlist]
      exact (sortListByPolicy_perm _).map _
    have hsupplied := hbooks.supplied
    rw [List.map_append] at hsupplied ⊢
    rw [taken, hfetching]
    exact hsupplied.trans (hsame.symm.append_right _)

theorem Books.addAgain (hbooks : attended.Books) {objects : ObjectStore} {objectId : String}
    {downloadDeadline : Option TimePoint} {ingester : PullObjectIngester}
    (hfetch : attended.ingester.fetchAgain objects objectId downloadDeadline = .ok ingester) :
    (attended.addAgain objects objectId downloadDeadline ingester).Books := by
  rw [Attended.addAgain]
  by_cases hpending : attended.ingester.Pending objectId
  · rw [fetchAgain_of_pending hpending] at hfetch
    rw [if_pos hpending, ← Except.ok.inj hfetch]
    exact hbooks.postpone rfl rfl
  · rw [fetchAgain_of_not_pending hpending] at hfetch
    obtain ⟨metadata, hmetadata, rfl⟩ := Folds.map_eq_ok hfetch
    rw [if_neg hpending, hmetadata]
    exact hbooks.add rfl rfl

/-- The front of the list goes into the hands of the worker. -/
theorem Books.take (hbooks : attended.Books) (hidle : attended.ingester.fetching = none) :
    Books { attended with
      ingester := attended.ingester.take, waiting := attended.waiting.tail } := by
  have htail : attended.waiting.tail.Sublist attended.waiting := List.tail_sublist _
  have hwaiting := hbooks.waiting
  have hsupplied := hbooks.supplied
  cases hlist : attended.ingester.fetchList with
  | nil =>
      rw [hlist, List.map_eq_nil_iff] at hwaiting
      have hsame : attended.ingester.take = attended.ingester := by
        rw [PullObjectIngester.take, hlist]
      rw [hsame, hwaiting, List.tail_nil, ← hwaiting]
      exact hbooks
  | cons item rest =>
      have htake : attended.ingester.take =
          { attended.ingester with fetchList := rest, fetching := some item } := by
        rw [PullObjectIngester.take, hlist]
      refine ⟨?_, hbooks.queued.sublist htail, fun arrival harrival =>
        hbooks.numbers arrival (htail.subset harrival), ?_, hbooks.settled⟩
      · rw [List.map_tail, hwaiting, htake, hlist, List.tail_cons]
      · rw [taken, hlist, hidle] at hsupplied
        rw [taken, htake]
        apply hsupplied.trans
        apply List.Perm.map
        simp only [Option.toList_none, Option.toList_some, List.append_nil, List.cons_append]
        rw [← List.append_assoc]
        exact (List.perm_append_singleton item _).symm

/-- A round that ends has settled its item. -/
theorem Books.finish (hbooks : attended.Books) {objects stored : ObjectStore} {round : Round}
    {item : IngestItem} {ingester : PullObjectIngester}
    (hfetching : attended.ingester.fetching = some item)
    (hingest : attended.ingester.ingest objects round = .ok (ingester, stored)) :
    Books { attended with
      ingester := ingester
      settled := attended.settled ++
        [⟨item, round, attended.ingester, objects, ingester, stored⟩] } := by
  obtain ⟨hsound, hlist⟩ := ingest_sound hfetching hingest
  refine ⟨hlist ▸ hbooks.waiting, hbooks.queued, hbooks.numbers, ?_, ?_⟩
  · have hsupplied := hbooks.supplied
    rw [taken, hfetching] at hsupplied
    rw [taken, hsound.givenUp, hlist]
    simpa using hsupplied
  · intro settlement hsettled
    rcases List.mem_append.mp hsettled with hold | hnew
    · exact hbooks.settled settlement hold
    · obtain rfl := List.mem_singleton.mp hnew
      exact hsound

theorem Books.step (hbooks : attended.Books) {attendance : Attendance} {next : Attended}
    (hstep : attended.step attendance = some next) : next.Books := by
  cases attendance with
  | fetch item =>
      obtain rfl := Option.some.inj hstep
      exact hbooks.add rfl rfl
  | fetchAgain objects objectId downloadDeadline =>
      rw [Attended.step] at hstep
      split at hstep
      case h_1 ingester hfetch =>
          obtain rfl := Option.some.inj hstep
          exact hbooks.addAgain hfetch
      case h_2 =>
          obtain rfl := Option.some.inj hstep
          exact hbooks
  | take =>
      obtain ⟨hidle, hnext⟩ := Option.ite_none_right_eq_some.mp hstep
      obtain rfl := Option.some.inj hnext
      exact hbooks.take (Option.isNone_iff_eq_none.mp hidle)
  | finish objects round =>
      obtain ⟨item, hfetching, hrest⟩ := Option.bind_eq_some_iff.mp hstep
      obtain ⟨⟨ingester, after⟩, hingest, rfl⟩ := Option.map_eq_some_iff.mp hrest
      exact hbooks.finish hfetching (Folds.toOption_eq_some hingest)

/-! ## Earliest deadline first -/

/-- The list is in the order of the policy. -/
theorem Books.sorted (hbooks : attended.Books) :
    sortListByPolicy attended.ingester.fetchList = attended.ingester.fetchList := by
  apply List.Pairwise.insertionSort_eq
  rw [← hbooks.waiting, List.pairwise_map]
  exact hbooks.queued.imp fun hqueued => hqueued.1

end Attended

end PullObjectIngester

end Mbstf.Ingest
