import Mathlib

/-!
# Lists that match place by place

`List.Forall₂` relates two lists of one length, and `List.SublistForall₂` a list to a part of
another.  Here is how the first is kept when one place of both changes, and how either comes
of keys that the items have.
-/

namespace Mbstf.Matched

variable {Left Right Key : Type*} {Matches : Left → Right → Prop}
variable {lefts : List Left} {rights : List Right}

theorem getElem?_of_forall₂ (hall : List.Forall₂ Matches lefts rights) {index : ℕ} {left : Left}
    (hleft : lefts[index]? = some left) :
    ∃ right, rights[index]? = some right ∧ Matches left right := by
  induction hall generalizing index with
  | nil => cases hleft
  | cons hhead _ ih =>
      cases index with
      | zero =>
          obtain rfl := Option.some.inj hleft
          exact ⟨_, rfl, hhead⟩
      | succ index => exact ih hleft

theorem forall₂_set (hall : List.Forall₂ Matches lefts rights) {left : Left} {right : Right}
    (hmatches : Matches left right) (index : ℕ) :
    List.Forall₂ Matches (lefts.set index left) (rights.set index right) := by
  induction hall generalizing index with
  | nil => exact .nil
  | cons hhead htail ih =>
      cases index with
      | zero => exact .cons hmatches htail
      | succ index => exact .cons hhead (ih index)

/-- One item changes with the one it matches. -/
theorem forall₂_modify (hall : List.Forall₂ Matches lefts rights) {index : ℕ}
    {left next : Left} {change : Right → Right} (hleft : lefts[index]? = some left)
    (hmatches : ∀ right, Matches left right → Matches next (change right)) :
    List.Forall₂ Matches (lefts.set index next) (rights.modify index change) := by
  obtain ⟨right, hright, hbefore⟩ := getElem?_of_forall₂ hall hleft
  rw [List.modify_eq_set_getElem?, hright]
  exact forall₂_set hall (hmatches right hbefore) index

theorem forall₂_concat (hall : List.Forall₂ Matches lefts rights) {left : Left} {right : Right}
    (hmatches : Matches left right) :
    List.Forall₂ Matches (lefts ++ [left]) (rights ++ [right]) :=
  List.rel_append hall (.cons hmatches .nil)

/-- Lists with the same keys match when items with the same key do. -/
theorem forall₂_of_map_eq {leftKey : Left → Key} {rightKey : Right → Key}
    (hkeys : lefts.map leftKey = rights.map rightKey)
    (hmatches : ∀ left ∈ lefts, ∀ right ∈ rights, leftKey left = rightKey right →
      Matches left right) :
    List.Forall₂ Matches lefts rights := by
  induction lefts generalizing rights with
  | nil =>
      obtain rfl := List.map_eq_nil_iff.mp hkeys.symm
      exact .nil
  | cons left lefts ih =>
      obtain ⟨right, others, rfl, hhead, htail⟩ := List.map_eq_cons_iff.mp hkeys.symm
      refine .cons (hmatches _ List.mem_cons_self _ List.mem_cons_self hhead.symm) ?_
      apply ih htail.symm
      intro other hother another hanother
      exact hmatches other (List.mem_cons_of_mem _ hother) another
        (List.mem_cons_of_mem _ hanother)

/-- The same for keys that are a part of others. -/
theorem sublistForall₂_of_map_sublist {leftKey : Left → Key} {rightKey : Right → Key}
    (hkeys : (lefts.map leftKey).Sublist (rights.map rightKey))
    (hmatches : ∀ left ∈ lefts, ∀ right ∈ rights, leftKey left = rightKey right →
      Matches left right) :
    List.SublistForall₂ Matches lefts rights := by
  obtain ⟨chosen, hchosen, hmap⟩ := List.sublist_map_iff.mp hkeys
  refine List.sublistForall₂_iff.mpr ⟨chosen, forall₂_of_map_eq hmap ?_, hchosen⟩
  intro left hleft right hright
  exact hmatches left hleft right (hchosen.subset hright)

/-- Items with different keys match different items. -/
theorem exists_matched_nodup {leftKey : Left → Key} {rightKey : Right → Key}
    (hnodup : (lefts.map leftKey).Nodup)
    (hmatches : ∀ left ∈ lefts, ∃ right ∈ rights, leftKey left = rightKey right ∧
      Matches left right) :
    ∃ matched : List Right, matched.Nodup ∧ (∀ right ∈ matched, right ∈ rights) ∧
      List.Forall₂ Matches lefts matched := by
  cases lefts with
  | nil => exact ⟨[], List.nodup_nil, fun _ hmem => absurd hmem List.not_mem_nil, .nil⟩
  | cons left others =>
      have hsome : Nonempty Right := (hmatches left List.mem_cons_self).nonempty
      choose! chosen hchosen using hmatches
      have hkeys : ((left :: others).map chosen).map rightKey =
          (left :: others).map leftKey := by
        rw [List.map_map]
        exact List.map_congr_left fun other hother => (hchosen other hother).2.1.symm
      refine ⟨(left :: others).map chosen, List.Nodup.of_map rightKey (hkeys ▸ hnodup), ?_, ?_⟩
      · intro right hright
        obtain ⟨other, hother, rfl⟩ := List.mem_map.mp hright
        exact (hchosen other hother).1
      · rw [List.forall₂_map_right_iff, List.forall₂_same]
        intro other hother
        exact (hchosen other hother).2.2

end Mbstf.Matched
