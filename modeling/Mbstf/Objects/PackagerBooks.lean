import Mbstf.Objects.Packager

/-!
# The books of a packager

Whether the packager loses or repeats an item is decided by comparing what was
supplied to it, what it sent and what it removed from its list.  These are
written down along a run, and the removals agree with the sends exactly when no
more urgent item lands between the sending of the front and its removal.
-/

namespace Mbstf.Objects

/-- A packager with a record of its run: the items ever supplied, sent and
removed, and the items added since the worker picked the one in flight. -/
structure Ledger where
  packager : Packager
  supplied : List PackageItem
  sent : List PackageItem
  popped : List PackageItem
  landed : List PackageItem

namespace Ledger

open Packager

/-- The books of a new packager. -/
def start (destIpAddr : Option String) (packageItems : List PackageItem) : Ledger where
  packager := .new destIpAddr packageItems
  supplied := packageItems
  sent := []
  popped := []
  landed := []

/-- The books after a step that led to the packager `next`. -/
def record (ledger : Ledger) (label : Label) (next : Packager) : Ledger :=
  match label with
  | .add item =>
      { ledger with
        packager := next, supplied := ledger.supplied ++ [item]
        landed := ledger.landed ++ [item] }
  | .beginRound _ => { ledger with packager := next, landed := [] }
  | .send _ _ _ => { ledger with packager := next, sent := ledger.sent ++ next.inHand }
  | .popFront =>
      { ledger with
        packager := next
        popped := ledger.popped ++ ledger.packager.packageItems.head?.toList }
  | .runOne _ => { ledger with packager := next }

/-- A step of the packager, written down. -/
def step (ledger : Ledger) (label : Label) : Option Ledger :=
  (ledger.packager.step label).map (ledger.record label)

/-- The items of the list that were not sent yet. -/
def waiting (ledger : Ledger) : Multiset PackageItem :=
  ledger.packager.packageItems - ledger.packager.inHand

/-- The items removed are the items sent, up to the one being sent, and what was
supplied is what was sent and what is waiting. -/
structure NothingLost (ledger : Ledger) : Prop where
  removed : ledger.popped ++ ledger.packager.inHand = ledger.sent
  balance : (ledger.supplied : Multiset PackageItem) = ledger.sent + ledger.waiting

/-- No item that was added since the worker picked the item in flight goes before
it, when that item is about to be removed. -/
def Undisturbed (ledger : Ledger) : Label → Prop
  | .popFront => ∀ item, ledger.packager.worker = .sent item →
      ∀ added ∈ ledger.landed, added.before item = false
  | _ => True

/-- What holds of the books in any case: the list is in order, supplied items
are removed or in the list, and the item in flight is in the list, in front of it
unless an item that goes before has landed. -/
structure Sound (ledger : Ledger) : Prop where
  sorted : ledger.packager.packageItems.Pairwise (DeadlineOrder.InOrder PackageItem.deadline)
  account : ledger.supplied.Perm (ledger.popped ++ ledger.packager.packageItems)
  mem : ∀ item, ledger.packager.inFlight = some item → item ∈ ledger.packager.packageItems
  front : ∀ item, ledger.packager.inFlight = some item →
    (∀ added ∈ ledger.landed, added.before item = false) →
      ledger.packager.packageItems.head? = some item
  overtaken : ∀ item added, ledger.packager.inFlight = some item → added ∈ ledger.landed →
    added.before item = true →
      ∃ front, ledger.packager.packageItems.head? = some front ∧ front.before item = true

theorem sound_start (destIpAddr : Option String) (packageItems : List PackageItem) :
    (start destIpAddr packageItems).Sound where
  sorted := DeadlineOrder.pairwise_sort _ packageItems
  account := (DeadlineOrder.sort_perm _ packageItems).symm
  mem := by
    intro item hitem
    cases hitem
  front := by
    intro item hitem
    cases hitem
  overtaken := by
    intro item added hitem
    cases hitem

theorem Sound.add {ledger : Ledger} (hsound : ledger.Sound) (item : PackageItem) :
    (ledger.record (.add item) (ledger.packager.add item)).Sound := by
  have hperm := DeadlineOrder.sort_perm PackageItem.deadline
    (ledger.packager.packageItems ++ [item])
  -- An item in flight is in the list, which therefore has a front.
  have hcons : ∀ flying, ledger.packager.inFlight = some flying →
      ∃ first rest, ledger.packager.packageItems = first :: rest := by
    intro flying hflying
    exact List.exists_cons_of_ne_nil (List.ne_nil_of_mem (hsound.mem flying hflying))
  refine ⟨DeadlineOrder.pairwise_sort _ _, ?_, ?_, ?_, ?_⟩
  · have haccount : (ledger.supplied ++ [item]).Perm
        (ledger.popped ++ (ledger.packager.packageItems ++ [item])) := by
      rw [← List.append_assoc]
      exact hsound.account.append_right [item]
    exact haccount.trans (hperm.symm.append_left ledger.popped)
  · intro flying hflying
    exact hperm.mem_iff.mpr (List.mem_append_left [item] (hsound.mem flying hflying))
  · intro flying hflying hnone
    obtain ⟨first, rest, hitems⟩ := hcons flying hflying
    have hfront := hsound.front flying hflying fun added hadded =>
      hnone added (List.mem_append_left [item] hadded)
    have hlast := hnone item (List.mem_append_right ledger.landed List.mem_cons_self)
    rw [hitems, List.head?_cons, Option.some.injEq] at hfront
    subst hfront
    have hsorted := hsound.sorted
    rw [hitems] at hsorted
    simp only [record, Packager.add, sortListByPolicy, hitems]
    exact DeadlineOrder.head?_sort_concat _ hsorted hlast
  · intro flying added hflying hadded hbefore
    obtain ⟨first, rest, hitems⟩ := hcons flying hflying
    have hsorted := hsound.sorted
    rw [hitems] at hsorted
    simp only [record, Packager.add, sortListByPolicy, hitems]
    rw [PackageItem.before, DeadlineOrder.before_iff] at hbefore
    by_cases hitem : item.before first = true
    · refine ⟨item, DeadlineOrder.head?_sort_concat_of_before _ hsorted hitem, ?_⟩
      rw [PackageItem.before, DeadlineOrder.before_iff] at hitem ⊢
      have hmem := hsound.mem flying hflying
      rw [hitems] at hmem
      rcases List.mem_cons.mp hmem with rfl | hrest
      · exact hitem
      · exact hitem.trans_le ((DeadlineOrder.inOrder_iff _).mp
          ((List.pairwise_cons.mp hsorted).1 flying hrest))
    · rw [Bool.not_eq_true] at hitem
      refine ⟨first, DeadlineOrder.head?_sort_concat _ hsorted hitem, ?_⟩
      rcases List.mem_append.mp hadded with hold | hnew
      · obtain ⟨front, hfront, hfrontBefore⟩ := hsound.overtaken flying added hflying hold
          ((DeadlineOrder.before_iff _).mpr hbefore)
        rw [hitems, List.head?_cons, Option.some.injEq] at hfront
        rwa [hfront]
      · obtain rfl := List.mem_singleton.mp hnew
        have hfirst := (DeadlineOrder.inOrder_iff _).mp hitem
        exact (DeadlineOrder.before_iff _).mpr (hfirst.trans_lt hbefore)

theorem Sound.beginRound {ledger : Ledger} (hsound : ledger.Sound) (transmitterThrows : Bool)
    (hworker : ledger.packager.worker = .roundStart) :
    (ledger.record (.beginRound transmitterThrows)
      (ledger.packager.beginRound transmitterThrows)).Sound := by
  obtain ⟨hitems, hpoint⟩ := ledger.packager.beginRound_spec transmitterThrows
  have hflying : ∀ flying,
      (ledger.packager.beginRound transmitterThrows).inFlight = some flying →
        ledger.packager.packageItems.head? = some flying := by
    intro flying hflying
    rw [inFlight] at hflying
    rcases hpoint with hpoint | hpoint | ⟨item, hhead, hpoint⟩
    · simp [hpoint, hworker] at hflying
    · simp [hpoint] at hflying
    · rw [hhead, ← hflying, hpoint]
  refine ⟨?_, ?_, ?_, ?_, ?_⟩
  · simpa [record, hitems] using hsound.sorted
  · simpa [record, hitems] using hsound.account
  · intro flying hnext
    simp only [record, hitems]
    exact List.mem_of_mem_head? (hflying flying hnext)
  · intro flying hnext _
    simp only [record, hitems]
    exact hflying flying hnext
  · intro flying added hnext hadded
    simp [record] at hadded

theorem Sound.send {ledger : Ledger} (hsound : ledger.Sound) {item : PackageItem}
    (object : Except OutOfRange Object) (secondsSinceEpoch : ℕ) (outcome : SendOutcome)
    (hworker : ledger.packager.worker = .picked item) :
    (ledger.record (.send object secondsSinceEpoch outcome)
      (ledger.packager.send item object secondsSinceEpoch outcome)).Sound := by
  obtain ⟨hitems, hpoint⟩ :=
    ledger.packager.send_spec item object secondsSinceEpoch outcome
  have hflying : ∀ flying,
      (ledger.packager.send item object secondsSinceEpoch outcome).inFlight = some flying →
        ledger.packager.inFlight = some flying := by
    intro flying hflying
    rw [inFlight] at hflying
    rw [inFlight, hworker]
    rcases hpoint with hpoint | hpoint
    · simp [hpoint] at hflying
    · simpa [hpoint] using hflying
  refine ⟨?_, ?_, ?_, ?_, ?_⟩
  · simpa [record, hitems] using hsound.sorted
  · simpa [record, hitems] using hsound.account
  · intro flying hnext
    simp only [record, hitems]
    exact hsound.mem flying (hflying flying hnext)
  · intro flying hnext hnone
    simp only [record, hitems] at hnone ⊢
    exact hsound.front flying (hflying flying hnext) hnone
  · intro flying added hnext hadded hbefore
    simp only [record, hitems] at hadded ⊢
    exact hsound.overtaken flying added (hflying flying hnext) hadded hbefore

/-- A step after which nothing is in flight leaves the books sound when the list
is still in order and accounts for what was supplied. -/
theorem sound_of_not_inFlight {ledger : Ledger}
    (hsorted : ledger.packager.packageItems.Pairwise
      (DeadlineOrder.InOrder PackageItem.deadline))
    (haccount : ledger.supplied.Perm (ledger.popped ++ ledger.packager.packageItems))
    (hflying : ledger.packager.inFlight = none) : ledger.Sound := by
  refine ⟨hsorted, haccount, ?_, ?_, ?_⟩
  · simp [hflying]
  · simp [hflying]
  · simp [hflying]

theorem Sound.popFront {ledger : Ledger} (hsound : ledger.Sound) :
    (ledger.record .popFront ledger.packager.popFront).Sound := by
  apply sound_of_not_inFlight
  · exact hsound.sorted.tail
  · have hlist : ledger.packager.packageItems.head?.toList ++
        ledger.packager.packageItems.tail = ledger.packager.packageItems := by
      cases ledger.packager.packageItems with
      | nil => rfl
      | cons first rest => rfl
    simp only [record, Packager.popFront, List.append_assoc, hlist]
    exact hsound.account
  · rfl

theorem Sound.runOne {ledger : Ledger} (hsound : ledger.Sound) (tois : List ℕ) :
    (ledger.record (.runOne tois) (ledger.packager.runOne tois)).Sound := by
  apply sound_of_not_inFlight
  · simpa [record, runOne_packageItems] using hsound.sorted
  · simpa [record, runOne_packageItems] using hsound.account
  · rfl

/-- The steps of the books, with what is known of the worker in each. -/
theorem step_cases {ledger next : Ledger} {label : Label}
    (hstep : ledger.step label = some next) :
    (∃ item, label = .add item ∧ next = ledger.record label (ledger.packager.add item)) ∨
    (∃ transmitterThrows, label = .beginRound transmitterThrows ∧
      ledger.packager.worker = .roundStart ∧
      next = ledger.record label (ledger.packager.beginRound transmitterThrows)) ∨
    (∃ item object secondsSinceEpoch outcome,
      label = .send object secondsSinceEpoch outcome ∧
      ledger.packager.worker = .picked item ∧
      next = ledger.record label
        (ledger.packager.send item object secondsSinceEpoch outcome)) ∨
    (∃ item, label = .popFront ∧ ledger.packager.worker = .sent item ∧
      next = ledger.record label ledger.packager.popFront) ∨
    (∃ tois, label = .runOne tois ∧ ledger.packager.worker = .completing ∧
      next = ledger.record label (ledger.packager.runOne tois)) := by
  obtain ⟨packager, hpackager, rfl⟩ := Option.map_eq_some_iff.mp hstep
  rcases Packager.step_cases hpackager with ⟨item, rfl, rfl⟩ |
    ⟨transmitterThrows, rfl, hworker, rfl⟩ |
    ⟨item, object, secondsSinceEpoch, outcome, rfl, hworker, rfl⟩ | ⟨item, rfl, hworker, rfl⟩ |
    ⟨tois, rfl, hworker, rfl⟩
  · exact Or.inl ⟨item, rfl, rfl⟩
  · exact Or.inr (Or.inl ⟨transmitterThrows, rfl, hworker, rfl⟩)
  · exact Or.inr (Or.inr (Or.inl
      ⟨item, object, secondsSinceEpoch, outcome, rfl, hworker, rfl⟩))
  · exact Or.inr (Or.inr (Or.inr (Or.inl ⟨item, rfl, hworker, rfl⟩)))
  · exact Or.inr (Or.inr (Or.inr (Or.inr ⟨tois, rfl, hworker, rfl⟩)))

theorem Sound.step {ledger next : Ledger} {label : Label} (hsound : ledger.Sound)
    (hstep : ledger.step label = some next) : next.Sound := by
  rcases step_cases hstep with ⟨item, rfl, rfl⟩ | ⟨transmitterThrows, rfl, hworker, rfl⟩ |
    ⟨item, object, secondsSinceEpoch, outcome, rfl, hworker, rfl⟩ | ⟨item, rfl, hworker, rfl⟩ |
    ⟨tois, rfl, hworker, rfl⟩
  · exact hsound.add item
  · exact hsound.beginRound transmitterThrows hworker
  · exact hsound.send object secondsSinceEpoch outcome hworker
  · exact hsound.popFront
  · exact hsound.runOne tois

/-- In sound books the balance follows from the order of removals. -/
theorem nothingLost_iff {ledger : Ledger} (hsound : ledger.Sound) :
    ledger.NothingLost ↔ ledger.popped ++ ledger.packager.inHand = ledger.sent := by
  constructor
  · exact fun hlost => hlost.removed
  · intro hremoved
    refine ⟨hremoved, ?_⟩
    have hin : (ledger.packager.inHand : Multiset PackageItem) ≤
        ledger.packager.packageItems := by
      rw [inHand]
      split
      · rename_i item hworker
        have hmem := hsound.mem item (by rw [inFlight, hworker])
        rw [Multiset.coe_le]
        exact (List.singleton_sublist.mpr hmem).subperm
      · exact Multiset.zero_le _
    rw [waiting, ← hremoved, ← Multiset.coe_add, add_assoc, add_tsub_cancel_of_le hin,
      Multiset.coe_add]
    exact Multiset.coe_eq_coe.mpr hsound.account

/-- One step keeps the removals right exactly when it is not the removal of an
item that another one has overtaken. -/
theorem nothingLost_step {ledger next : Ledger} {label : Label} (hsound : ledger.Sound)
    (hlost : ledger.NothingLost) (hstep : ledger.step label = some next) :
    next.NothingLost ↔ ledger.Undisturbed label := by
  have hremoved := hlost.removed
  rw [nothingLost_iff (hsound.step hstep)]
  rcases step_cases hstep with ⟨item, rfl, rfl⟩ | ⟨transmitterThrows, rfl, hworker, rfl⟩ |
    ⟨item, object, secondsSinceEpoch, outcome, rfl, hworker, rfl⟩ | ⟨item, rfl, hworker, rfl⟩ |
    ⟨tois, rfl, hworker, rfl⟩
  · exact iff_of_true hremoved trivial
  · obtain ⟨-, hpoint⟩ := ledger.packager.beginRound_spec transmitterThrows
    refine iff_of_true ?_ trivial
    have hbefore : ledger.packager.inHand = [] := by rw [inHand, hworker]
    have hafter : (ledger.packager.beginRound transmitterThrows).inHand = [] := by
      rw [inHand]
      rcases hpoint with hpoint | hpoint | ⟨item, -, hpoint⟩
      · rw [hpoint, hworker]
      · rw [hpoint]
      · rw [hpoint]
    rw [hbefore] at hremoved
    simpa [record, hafter] using hremoved
  · refine iff_of_true ?_ trivial
    have hbefore : ledger.packager.inHand = [] := by rw [inHand, hworker]
    rw [hbefore, List.append_nil] at hremoved
    simp [record, hremoved]
  · have hflying : ledger.packager.inFlight = some item := by rw [inFlight, hworker]
    have hbefore : ledger.packager.inHand = [item] := by rw [inHand, hworker]
    have hafter : ledger.packager.popFront.inHand = [] := rfl
    simp only [record, hafter, List.append_nil, ← hremoved, hbefore]
    constructor
    · intro hsame other hother added hadded
      obtain rfl : item = other := by
        rw [hworker] at hother
        exact WorkerPoint.sent.inj hother
      by_contra hbefore
      rw [Bool.not_eq_false] at hbefore
      obtain ⟨front, hfront, hfrontBefore⟩ :=
        hsound.overtaken item added hflying hadded hbefore
      have hfrontEq : front = item := by
        simpa [hfront] using hsame
      rw [hfrontEq, PackageItem.before, DeadlineOrder.before_iff] at hfrontBefore
      exact lt_irrefl _ hfrontBefore
    · intro hundisturbed
      rw [hsound.front item hflying (hundisturbed item hworker)]
      rfl
  · refine iff_of_true ?_ trivial
    have hbefore : ledger.packager.inHand = [] := by rw [inHand, hworker]
    have hafter : (ledger.packager.runOne tois).inHand = [] := rfl
    rw [hbefore] at hremoved
    simpa [record, hafter] using hremoved

/-- For any initial list and any interleaving of adds with the rounds of the
worker, nothing is lost or duplicated throughout the run if and only if no item
that goes before the one in flight lands before that one is removed. -/
theorem nothingLost_throughout_iff (destIpAddr : Option String)
    (packageItems : List PackageItem) (labels : List Label) :
    Runs.Throughout step NothingLost (start destIpAddr packageItems) labels ↔
      Runs.Guarded step Undisturbed (start destIpAddr packageItems) labels := by
  have hkeeps : ∀ ledger label next, Sound ledger → NothingLost ledger →
      step ledger label = some next → Sound next :=
    fun ledger label next hsound _ hstep => hsound.step hstep
  have hexact : ∀ ledger label next, Sound ledger → NothingLost ledger →
      step ledger label = some next → (NothingLost next ↔ Undisturbed ledger label) :=
    fun ledger label next hsound hlost hstep => nothingLost_step hsound hlost hstep
  have hsound := sound_start destIpAddr packageItems
  exact Runs.throughout_iff_guarded hkeeps hexact hsound
    ((nothingLost_iff hsound).mpr rfl)

/-- An item with a deadline that is added while one without is being sent is
removed in its place, unsent, while the other stays to be sent again. -/
theorem urgent_item_lost :
    ∃ ledger,
      Runs.run step (start (some "239.0.0.1") [⟨"1", none⟩])
        [.beginRound false,
          .send (.ok ([7], .new 100 "1" "text/plain" "http://example.com/object1"
            "http://example.com/object1" "acq1" 90 none none none)) 0 (.accepted 1),
          .add ⟨"2", some 200⟩, .popFront] = some ledger ∧
      ledger.sent = [⟨"1", none⟩] ∧ ledger.popped = [⟨"2", some 200⟩] ∧
      ledger.packager.packageItems = [⟨"1", none⟩] ∧ ¬ ledger.NothingLost := by
  refine ⟨_, rfl, rfl, rfl, rfl, ?_⟩
  intro hlost
  exact absurd hlost.removed (by decide)

end Ledger

end Mbstf.Objects
