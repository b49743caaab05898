import Mathlib

/-!
# Lists kept by deadline

Items may have a deadline.  An item goes before another when it has the earlier
deadline, and any deadline goes before none; items that are alike in this keep
their order.  The sort is the stable one of `std::list::sort`.
-/

namespace Mbstf.DeadlineOrder

variable {Time Item : Type*} [LinearOrder Time] (deadline : Item → Option Time)

/-- The comparison of the sorting policy. -/
def before (left right : Item) : Bool :=
  match deadline left, deadline right with
  | some first, some second => first < second
  | first, _ => first.isSome

/-- A deadline as a point in time, none being later than all of them. -/
def rank (item : Item) : WithTop Time :=
  match deadline item with
  | some time => (time : WithTop Time)
  | none => ⊤

theorem before_iff {left right : Item} :
    before deadline left right = true ↔ rank deadline left < rank deadline right := by
  unfold before rank
  cases deadline left with
  | none => simp
  | some first =>
      cases deadline right with
      | none => simp
      | some second => simp

/-- The order of a sorted list: nothing later goes before. -/
def InOrder (left right : Item) : Prop := before deadline right left = false

instance : DecidableRel (InOrder deadline) := fun left right =>
  inferInstanceAs (Decidable (before deadline right left = false))

theorem inOrder_iff {left right : Item} :
    InOrder deadline left right ↔ rank deadline left ≤ rank deadline right := by
  rw [InOrder, ← Bool.not_eq_true, before_iff, not_lt]

instance : IsTrans Item (InOrder deadline) where
  trans := by
    intro first second third hfirst hsecond
    rw [inOrder_iff] at hfirst hsecond ⊢
    exact hfirst.trans hsecond

instance : Std.Total (InOrder deadline) where
  total := by
    intro left right
    rw [inOrder_iff, inOrder_iff]
    exact le_total _ _

/-- `std::list::sort` with the comparison of the policy. -/
def sort (items : List Item) : List Item := items.insertionSort (InOrder deadline)

theorem sort_perm (items : List Item) : (sort deadline items).Perm items :=
  List.perm_insertionSort _ items

theorem pairwise_sort (items : List Item) :
    (sort deadline items).Pairwise (InOrder deadline) :=
  List.pairwise_insertionSort _ items

/-- Without deadlines the order is that of the list. -/
theorem sort_of_no_deadline {items : List Item} (hnone : ∀ item ∈ items, deadline item = none) :
    sort deadline items = items := by
  apply List.Pairwise.insertionSort_eq
  apply List.pairwise_of_forall_mem_list
  intro left _ right hright
  rw [InOrder, before, hnone right hright]
  rfl

/-- The front of a list in order stays in front of what is added behind it. -/
theorem head?_sort_concat {front added : Item} {rest : List Item}
    (hsorted : (front :: rest).Pairwise (InOrder deadline))
    (hadded : before deadline added front = false) :
    (sort deadline (front :: rest ++ [added])).head? = some front := by
  have hall : ∀ item ∈ rest ++ [added], InOrder deadline front item := by
    intro item hitem
    rcases List.mem_append.mp hitem with hrest | hlast
    · exact (List.pairwise_cons.mp hsorted).1 item hrest
    · obtain rfl := List.mem_singleton.mp hlast
      exact hadded
  rw [sort, List.cons_append, List.insertionSort_cons_of_forall_rel _ hall, List.head?_cons]

/-- An addition that goes before the front becomes the front. -/
theorem head?_sort_concat_of_before {front added : Item} {rest : List Item}
    (hsorted : (front :: rest).Pairwise (InOrder deadline))
    (hadded : before deadline added front = true) :
    (sort deadline (front :: rest ++ [added])).head? = some added := by
  have hrank := (before_iff deadline).mp hadded
  obtain ⟨first, tail, hsort⟩ : ∃ first tail,
      sort deadline (front :: rest ++ [added]) = first :: tail := by
    apply List.exists_cons_of_ne_nil
    intro hnil
    have hlength := (sort_perm deadline (front :: rest ++ [added])).length_eq
    rw [hnil] at hlength
    simp at hlength
  have hmem : first ∈ front :: rest ++ [added] := by
    rw [← (sort_perm deadline _).mem_iff, hsort]
    exact List.mem_cons_self
  have hfirst : rank deadline first ≤ rank deadline added := by
    have hin : added ∈ first :: tail := by
      rw [← hsort, (sort_perm deadline _).mem_iff]
      simp
    have hsortedAll := pairwise_sort deadline (front :: rest ++ [added])
    rw [hsort] at hsortedAll
    rcases List.mem_cons.mp hin with rfl | htail
    · exact le_rfl
    · exact (inOrder_iff deadline).mp ((List.pairwise_cons.mp hsortedAll).1 added htail)
  -- Everything else in the list has the rank of the old front at least.
  have hfirstEq : first = added := by
    rw [List.mem_append, List.mem_singleton, List.mem_cons] at hmem
    rcases hmem with (rfl | hrest) | hlast
    · exact absurd hfirst (not_le.mpr hrank)
    · have hfront := (inOrder_iff deadline).mp ((List.pairwise_cons.mp hsorted).1 first hrest)
      exact absurd (hfront.trans hfirst) (not_le.mpr hrank)
    · exact hlast
  rw [hsort, hfirstEq, List.head?_cons]

/-! ## Stability -/

/-- Items that are alike keep their order among themselves. -/
theorem filter_sort {test : Item → Bool}
    (halike : ∀ left right, test left → test right → rank deadline left = rank deadline right)
    (items : List Item) : (sort deadline items).filter test = items.filter test := by
  have hordered : (items.filter test).Pairwise (InOrder deadline) := by
    apply List.pairwise_of_forall_mem_list
    intro left hleft right hright
    rw [inOrder_iff]
    exact (halike left right (List.mem_filter.mp hleft).2 (List.mem_filter.mp hright).2).le
  have hsublist : (items.filter test).Sublist (sort deadline items) :=
    List.sublist_insertionSort hordered List.filter_sublist
  have hfiltered := hsublist.filter test
  rw [List.filter_filter] at hfiltered
  simp only [Bool.and_self] at hfiltered
  exact (hfiltered.eq_of_length ((sort_perm deadline items).filter test).length_eq.symm).symm

/-- In a list in order, the items that are alike with the first are at the front. -/
theorem takeWhile_eq_filter {items : List Item} {time : WithTop Time}
    (hsorted : items.Pairwise (InOrder deadline))
    (hleast : ∀ item ∈ items, time ≤ rank deadline item) :
    items.takeWhile (fun item => rank deadline item = time) =
      items.filter (fun item => rank deadline item = time) := by
  induction items with
  | nil => rfl
  | cons first rest ih =>
      obtain ⟨hfirst, hrest⟩ := List.pairwise_cons.mp hsorted
      by_cases hsame : rank deadline first = time
      · have htail := ih hrest fun item hitem => hleast item (List.mem_cons_of_mem first hitem)
        rw [List.takeWhile_cons, List.filter_cons]
        simp only [hsame, decide_true, if_true, htail]
      · have hlater : time < rank deadline first :=
          lt_of_le_of_ne (hleast first List.mem_cons_self) (Ne.symm hsame)
        have hnone : ∀ item ∈ first :: rest, ¬ rank deadline item = time := by
          intro item hitem heq
          rcases List.mem_cons.mp hitem with rfl | hin
          · exact hsame heq
          · have hbehind := (inOrder_iff deadline).mp (hfirst item hin)
            exact absurd (heq ▸ hbehind) (not_le.mpr hlater)
        rw [List.takeWhile_cons, if_neg (by simp [hsame])]
        symm
        rw [List.filter_eq_nil_iff]
        intro item hitem
        simp [hnone item hitem]

/-- What holds between items that are alike holds between them in their new places. -/
theorem pairwise_sort_alike {Related : Item → Item → Prop} {items : List Item}
    (hitems : items.Pairwise fun left right =>
      rank deadline left = rank deadline right → Related left right) :
    (sort deadline items).Pairwise fun left right =>
      rank deadline left = rank deadline right → Related left right := by
  rw [List.pairwise_iff_forall_sublist]
  intro left right hpair halike
  let test : Item → Bool := fun item => rank deadline item = rank deadline right
  have hboth : [left, right].filter test = [left, right] := by simp [test, halike]
  have hfilter := hpair.filter test
  rw [hboth, filter_sort deadline] at hfilter
  · exact List.pairwise_iff_forall_sublist.mp hitems
      (hfilter.trans List.filter_sublist) halike
  · intro first second hfirst hsecond
    exact (of_decide_eq_true hfirst).trans (of_decide_eq_true hsecond).symm

/-- Items that carry more than their deadline are sorted as without it. -/
theorem map_sort {Carrier : Type*} (item : Carrier → Item) (carriers : List Carrier) :
    (sort (fun carrier => deadline (item carrier)) carriers).map item =
      sort deadline (carriers.map item) :=
  List.map_insertionSort _ _ item carriers fun _ _ _ _ => Iff.rfl

end Mbstf.DeadlineOrder
