import Mbstf.Core.Folds

/-!
# Lists kept by priority

New items are put in front of all items that do not have a higher priority, at the place
that a binary search finds.  The list is then in priority order, what came later stands
first among equals, and with distinct priorities the order of the insertions does not
matter.  A list of attempts is searched for the first that answers.
-/

namespace Mbstf.PriorityOrder

/-! ## `std::lower_bound` -/

section

variable {Item : Type*} {before : Item → Bool} {items : List Item}

/-- The loop of `std::lower_bound`, with `count` items left from `first` on. -/
def lowerBound (before : Item → Bool) (items : List Item) (first count : ℕ) : ℕ :=
  if _hzero : count = 0 then first
  else
    match items[first + count / 2]? with
    | none => first
    | some middle =>
        if before middle then
          lowerBound before items (first + count / 2 + 1) (count - count / 2 - 1)
        else lowerBound before items first (count / 2)
termination_by count
decreasing_by
  · omega
  · omega

/-- In a list that is split by the test, the loop finds the place of the split. -/
theorem lowerBound_eq_length {low high : List Item} (hitems : items = low ++ high)
    (hlow : ∀ item ∈ low, before item = true) (hhigh : ∀ item ∈ high, before item = false)
    {first count : ℕ} (hfirst : first ≤ low.length) (hlast : low.length ≤ first + count)
    (hcount : first + count ≤ items.length) : lowerBound before items first count = low.length := by
  induction count using Nat.strong_induction_on generalizing first with
  | h count ih =>
      rw [lowerBound]
      split
      case isTrue hzero => omega
      case isFalse hzero =>
          have hmiddle : first + count / 2 < items.length := by omega
          rw [List.getElem?_eq_getElem hmiddle]
          dsimp only
          by_cases hside : first + count / 2 < low.length
          · have hbefore : before items[first + count / 2] = true := by
              apply hlow
              simp only [hitems, List.getElem_append_left hside]
              exact List.getElem_mem hside
            rw [if_pos hbefore]
            exact ih (count - count / 2 - 1) (by omega) (by omega) (by omega) (by omega)
          · have hnot : before items[first + count / 2] = false := by
              apply hhigh
              simp only [hitems, List.getElem_append_right (not_lt.mp hside)]
              exact List.getElem_mem _
            rw [if_neg (by rw [hnot]; exact Bool.false_ne_true)]
            exact ih (count / 2) (by omega) hfirst (by omega) (by omega)

end

/-! ## Insertion -/

section

variable {Item Rank : Type*} [LinearOrder Rank] (priority : Item → Rank)

/-- A new item at its place in a list. -/
def keep (items : List Item) (item : Item) : List Item :=
  let place := lowerBound (fun other => priority item < priority other) items 0 items.length
  items.take place ++ item :: items.drop place

/-- The order of a list that is kept. -/
def InOrder (items : List Item) : Prop :=
  items.Pairwise fun first second => priority second ≤ priority first

/-- The items of higher priority, and the others, of a list. -/
def higher (item : Item) (other : Item) : Bool := priority item < priority other

/-- In a list in order nothing of higher priority comes later. -/
theorem higher_eq_false_of_mem_dropWhile {items : List Item} (horder : InOrder priority items)
    {item other : Item} (hother : other ∈ items.dropWhile (higher priority item)) :
    higher priority item other = false := by
  cases hrest : items.dropWhile (higher priority item) with
  | nil =>
      rw [hrest] at hother
      cases hother
  | cons first rest =>
      have hfirst : higher priority item first = false := by
        have hhead := List.head?_dropWhile_not (higher priority item) items
        rw [hrest] at hhead
        simpa using hhead
      have hsorted : InOrder priority (first :: rest) :=
        hrest ▸ horder.sublist (List.dropWhile_sublist _)
      rw [hrest] at hother
      rcases List.mem_cons.mp hother with rfl | hlater
      · exact hfirst
      · have hle := (List.pairwise_cons.mp hsorted).1 other hlater
        have hnot := of_decide_eq_false hfirst
        exact decide_eq_false fun hlt => hnot (hlt.trans_le hle)

/-- In a list in order the place is found behind the items of higher priority. -/
theorem keep_eq {items : List Item} (horder : InOrder priority items) (item : Item) :
    keep priority items item =
      items.takeWhile (higher priority item) ++
        item :: items.dropWhile (higher priority item) := by
  have hsplit : items = items.takeWhile (higher priority item) ++
      items.dropWhile (higher priority item) := List.takeWhile_append_dropWhile.symm
  generalize hlow : items.takeWhile (higher priority item) = low at hsplit ⊢
  generalize hhigh : items.dropWhile (higher priority item) = high at hsplit ⊢
  have hplace : lowerBound (higher priority item) items 0 items.length = low.length := by
    apply lowerBound_eq_length hsplit
    · intro other hother
      rw [← hlow] at hother
      exact List.mem_takeWhile_imp hother
    · intro other hother
      rw [← hhigh] at hother
      exact higher_eq_false_of_mem_dropWhile priority horder hother
    · exact Nat.zero_le _
    · rw [hsplit, List.length_append]
      omega
    · omega
  change items.take (lowerBound (higher priority item) items 0 items.length) ++
    item :: items.drop (lowerBound (higher priority item) items 0 items.length) = _
  rw [hplace, hsplit, List.take_left, List.drop_left]

/-- What is kept of a list of insertions: each item, in priority order, and of items of one
priority the later ones first. -/
structure Kept (items kept : List Item) : Prop where
  perm : kept.Perm items
  inOrder : InOrder priority kept
  laterFirst : ∀ rank, kept.filter (fun item => priority item = rank) =
    (items.filter fun item => priority item = rank).reverse

theorem Kept.keep {items kept : List Item} (hkept : Kept priority items kept) (item : Item) :
    Kept priority (items ++ [item]) (keep priority kept item) := by
  rw [keep_eq priority hkept.inOrder item]
  have hsplit : kept.takeWhile (higher priority item) ++ kept.dropWhile (higher priority item) =
      kept := List.takeWhile_append_dropWhile
  have hlow : ∀ other ∈ kept.takeWhile (higher priority item),
      priority item < priority other := by
    intro other hother
    have hhigher : higher priority item other = true := List.mem_takeWhile_imp hother
    exact of_decide_eq_true hhigher
  have hhigh : ∀ other ∈ kept.dropWhile (higher priority item),
      priority other ≤ priority item := fun other hother => not_lt.mp
    (of_decide_eq_false (higher_eq_false_of_mem_dropWhile priority hkept.inOrder hother))
  generalize kept.takeWhile (higher priority item) = low at hsplit hlow ⊢
  generalize kept.dropWhile (higher priority item) = high at hsplit hhigh ⊢
  refine ⟨?_, ?_, ?_⟩
  · have hmiddle : (low ++ item :: high).Perm (item :: kept) := hsplit ▸ List.perm_middle
    exact hmiddle.trans
      ((hkept.perm.cons item).trans (List.perm_append_singleton item items).symm)
  · have horder := hkept.inOrder
    rw [← hsplit, InOrder, List.pairwise_append] at horder
    obtain ⟨hlowOrder, hhighOrder, hcross⟩ := horder
    refine List.pairwise_append.mpr ⟨hlowOrder, List.pairwise_cons.mpr ⟨hhigh, hhighOrder⟩, ?_⟩
    intro first hfirst second hsecond
    rcases List.mem_cons.mp hsecond with rfl | hin
    · exact (hlow first hfirst).le
    · exact hcross first hfirst second hin
  · intro rank
    have hlater := hkept.laterFirst rank
    rw [← hsplit, List.filter_append] at hlater
    rw [List.filter_append, List.filter_append, List.reverse_append, List.filter_cons]
    by_cases hrank : priority item = rank
    · have hnone : low.filter (fun other => priority other = rank) = [] := by
        rw [List.filter_eq_nil_iff]
        intro other hother hsame
        exact (hlow other hother).ne (hrank.trans (of_decide_eq_true hsame).symm)
      rw [hnone, List.nil_append] at hlater
      simp [hrank, hnone, hlater]
    · simp [hrank, hlater]

end

/-! ## Searching for an answer -/

section

variable {State Value Failure : Type*}

/-- An attempt answers or fails, and may change the state either way. -/
abbrev Attempt (State Value Failure : Type*) := State → Except Failure Value × State

/-- The attempts in turn, until one answers or fails with a failure that aborts. -/
def search (aborts : Failure → Bool) :
    List (Attempt State Value Failure) → State → Except Failure (Option Value) × State
  | [], state => (.ok none, state)
  | attempt :: rest, state =>
      match attempt state with
      | (.ok value, after) => (.ok (some value), after)
      | (.error failure, after) =>
          if aborts failure then (.error failure, after) else search aborts rest after

variable (aborts : Failure → Bool)

end

end Mbstf.PriorityOrder
