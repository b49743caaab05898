import Mathlib

/-!
# Sets filed under keys

A `SetIndex` is a table of sets, one set a key: the shape of a
`std::map<Key, std::set<Item>>`.  Rows that become empty are dropped by the
erasing operations, so a key is present exactly when somebody is filed under
it.  Everything is stated through `row`, the set filed under a key, which is
empty for an absent key.
-/

namespace Mbstf.SetIndex

open Std

variable {Key Item : Type*} [Ord Key] [TransOrd Key] [Ord Item]

/-- Keys compare equal exactly when they are equal, in the orientation the
membership lemmas of ordered sets produce. -/
theorem compare_eq_iff [LawfulEqOrd Item] {left right : Item} :
    compare left right = .eq ↔ left = right :=
  LawfulEqCmp.compare_eq_iff_eq

/-- The set filed under a key. -/
def row (index : ExtTreeMap Key (ExtTreeSet Item)) (key : Key) : ExtTreeSet Item :=
  index[key]?.getD ∅

/-- No key is kept with nobody filed under it. -/
def NoEmptyRow (index : ExtTreeMap Key (ExtTreeSet Item)) : Prop :=
  ∀ (key : Key) (set : ExtTreeSet Item), index[key]? = some set → set ≠ ∅

@[simp]
theorem row_empty (key : Key) :
    row (∅ : ExtTreeMap Key (ExtTreeSet Item)) key = ∅ := by
  simp [row]

theorem noEmptyRow_empty : NoEmptyRow (∅ : ExtTreeMap Key (ExtTreeSet Item)) := by
  intro key set hget
  simp at hget

variable [TransOrd Item]

theorem ne_empty_iff {set : ExtTreeSet Item} : set ≠ ∅ ↔ ∃ item, item ∈ set := by
  rw [Ne, ExtTreeSet.eq_empty_iff_forall_not_mem]
  push Not
  rfl

/-- File one more item under a key. -/
def insertAt (index : ExtTreeMap Key (ExtTreeSet Item)) (key : Key) (item : Item) :
    ExtTreeMap Key (ExtTreeSet Item) :=
  index.insert key ((row index key).insert item)

/-- What is left of a row without one item; nothing when the row empties. -/
def eraseFrom (item : Item) (set : ExtTreeSet Item) : Option (ExtTreeSet Item) :=
  if item ∈ set then
    if (set.erase item).isEmpty then none else some (set.erase item)
  else some set

/-- Remove an item from the row of one key. -/
def eraseAt (index : ExtTreeMap Key (ExtTreeSet Item)) (key : Key) (item : Item) :
    ExtTreeMap Key (ExtTreeSet Item) :=
  index.alter key fun set => set.bind (eraseFrom item)

/-- Remove an item from every row. -/
def eraseEverywhere (index : ExtTreeMap Key (ExtTreeSet Item)) (item : Item) :
    ExtTreeMap Key (ExtTreeSet Item) :=
  index.filterMap fun _ set => eraseFrom item set

/-- The keys an item is filed under, in key order. -/
def keysOf (index : ExtTreeMap Key (ExtTreeSet Item)) (item : Item) : List Key :=
  (index.toList.filter fun entry => item ∈ entry.2).map Prod.fst

theorem mem_row_iff {index : ExtTreeMap Key (ExtTreeSet Item)} {key : Key} {item : Item} :
    item ∈ row index key ↔ ∃ set, index[key]? = some set ∧ item ∈ set := by
  cases hget : index[key]? with
  | none => simp [row, hget]
  | some set => simp [row, hget]

theorem eraseFrom_ne_empty {erased : Item} {set kept : ExtTreeSet Item} (hset : set ≠ ∅)
    (hkept : eraseFrom erased set = some kept) : kept ≠ ∅ := by
  unfold eraseFrom at hkept
  split at hkept
  · split at hkept
    · cases hkept
    · rename_i hempty
      cases hkept
      simpa [ExtTreeSet.isEmpty_iff] using hempty
  · cases hkept
    exact hset

theorem noEmptyRow_eraseAt {index : ExtTreeMap Key (ExtTreeSet Item)}
    (hindex : NoEmptyRow index) (key : Key) (item : Item) :
    NoEmptyRow (eraseAt index key item) := by
  intro other set hget
  rw [eraseAt, ExtTreeMap.getElem?_alter] at hget
  split at hget
  · obtain ⟨old, hold, hkept⟩ := Option.bind_eq_some_iff.mp hget
    exact eraseFrom_ne_empty (hindex key old hold) hkept
  · exact hindex other set hget

section

variable [LawfulEqOrd Key]

theorem noEmptyRow_eraseEverywhere {index : ExtTreeMap Key (ExtTreeSet Item)}
    (hindex : NoEmptyRow index) (item : Item) :
    NoEmptyRow (eraseEverywhere index item) := by
  intro key set hget
  rw [eraseEverywhere, ExtTreeMap.getElem?_filterMap'] at hget
  obtain ⟨old, hold, hkept⟩ := Option.bind_eq_some_iff.mp hget
  exact eraseFrom_ne_empty (hindex key old hold) hkept

/-- An item is filed under each of its keys once. -/
theorem nodup_keysOf (index : ExtTreeMap Key (ExtTreeSet Item)) (item : Item) :
    (keysOf index item).Nodup := by
  have hkeys : (index.toList.map Prod.fst).Nodup := by
    rw [ExtTreeMap.map_fst_toList_eq_keys]
    exact index.distinct_keys.imp fun hne heq => hne (compare_eq_iff.mpr heq)
  exact hkeys.sublist ((List.filter_sublist).map Prod.fst)

theorem mem_keysOf {index : ExtTreeMap Key (ExtTreeSet Item)} {key : Key} {item : Item} :
    key ∈ keysOf index item ↔ item ∈ row index key := by
  rw [mem_row_iff]
  simp [keysOf, ExtTreeMap.mem_toList_iff_getElem?_eq_some]

/-- The keys come in order, so a list of keys is known by its members. -/
theorem keysOf_congr {left right : ExtTreeMap Key (ExtTreeSet Item)} {first second : Item}
    (hsame : ∀ key, first ∈ row left key ↔ second ∈ row right key) :
    keysOf left first = keysOf right second := by
  have hordered : ∀ (index : ExtTreeMap Key (ExtTreeSet Item)) (item : Item),
      (keysOf index item).Pairwise fun before behind => compare before behind = .lt := by
    intro index item
    rw [keysOf, List.pairwise_map]
    exact index.ordered_keys_toList.sublist List.filter_sublist
  have hperm : (keysOf left first).Perm (keysOf right second) := by
    apply (List.perm_ext_iff_of_nodup (nodup_keysOf left first) (nodup_keysOf right second)).mpr
    intro key
    rw [mem_keysOf, mem_keysOf, hsame]
  refine hperm.eq_of_pairwise ?_ (hordered left first) (hordered right second)
  intro before behind _ _ hlt hgt
  have hswap : compare before behind = (compare behind before).swap := OrientedCmp.eq_swap
  rw [hlt, hgt] at hswap
  simp at hswap

theorem any_mem_iff {index : ExtTreeMap Key (ExtTreeSet Item)} {item : Item} :
    (index.toList.any fun entry => item ∈ entry.2) = true ↔
      ∃ key, item ∈ row index key := by
  simp [mem_row_iff, ExtTreeMap.mem_toList_iff_getElem?_eq_some]

end

variable [LawfulEqOrd Item]

@[simp]
theorem mem_insert_iff {set : ExtTreeSet Item} {added item : Item} :
    item ∈ set.insert added ↔ item = added ∨ item ∈ set := by
  rw [ExtTreeSet.mem_insert, compare_eq_iff, eq_comm]

@[simp]
theorem mem_erase_iff {set : ExtTreeSet Item} {erased item : Item} :
    item ∈ set.erase erased ↔ item ≠ erased ∧ item ∈ set := by
  rw [ExtTreeSet.mem_erase, Ne, compare_eq_iff, eq_comm]

/-- The distinct members of an ordered set, listed in its order. -/
theorem nodup_toList (set : ExtTreeSet Item) :
    set.toList.Nodup := by
  refine set.distinct_toList.imp fun hne heq => ?_
  exact hne (compare_eq_iff.mpr heq)

theorem mem_eraseFrom (item erased : Item) (set : ExtTreeSet Item) :
    (∃ kept, eraseFrom erased set = some kept ∧ item ∈ kept) ↔
      item ≠ erased ∧ item ∈ set := by
  unfold eraseFrom
  by_cases hmem : erased ∈ set
  · by_cases hempty : (set.erase erased).isEmpty
    · have hnone : item ∉ set.erase erased := by
        rw [ExtTreeSet.isEmpty_iff] at hempty
        simp [hempty]
      rw [mem_erase_iff] at hnone
      simpa [hmem, hempty] using hnone
    · simp [hmem, hempty, mem_erase_iff, -ExtTreeSet.mem_erase]
  · simp only [hmem, if_false, Option.some.injEq, exists_eq_left']
    constructor
    · intro hitem
      exact ⟨fun heq => hmem (heq ▸ hitem), hitem⟩
    · exact fun hitem => hitem.2

theorem noEmptyRow_insertAt {index : ExtTreeMap Key (ExtTreeSet Item)}
    (hindex : NoEmptyRow index) (key : Key) (item : Item) :
    NoEmptyRow (insertAt index key item) := by
  intro other set hget
  rw [insertAt, ExtTreeMap.getElem?_insert] at hget
  split at hget
  · cases hget
    exact ne_empty_iff.mpr ⟨item, by simp⟩
  · exact hindex other set hget

variable [LawfulEqOrd Key]

theorem mem_row_insertAt {index : ExtTreeMap Key (ExtTreeSet Item)} {key other : Key}
    {added item : Item} :
    item ∈ row (insertAt index key added) other ↔
      (other = key ∧ item = added) ∨ item ∈ row index other := by
  by_cases hkey : key = other
  · subst hkey
    simp [insertAt, row, -ExtTreeSet.mem_insert]
  · have hcompare : compare key other ≠ .eq := fun heq => hkey (compare_eq_iff.mp heq)
    simp [insertAt, row, ExtTreeMap.getElem?_insert, hcompare, Ne.symm hkey]

theorem mem_row_eraseAt {index : ExtTreeMap Key (ExtTreeSet Item)} {key other : Key}
    {erased item : Item} :
    item ∈ row (eraseAt index key erased) other ↔
      item ∈ row index other ∧ ¬ (other = key ∧ item = erased) := by
  by_cases hkey : key = other
  · subst hkey
    rw [mem_row_iff, mem_row_iff, eraseAt, ExtTreeMap.getElem?_alter_self]
    cases hget : index[key]? with
    | none => simp
    | some set =>
        simpa [and_comm] using mem_eraseFrom item erased set
  · have hcompare : compare key other ≠ .eq := fun heq => hkey (compare_eq_iff.mp heq)
    simp [eraseAt, row, ExtTreeMap.getElem?_alter, hcompare, Ne.symm hkey]

theorem mem_row_eraseEverywhere {index : ExtTreeMap Key (ExtTreeSet Item)} {key : Key}
    {erased item : Item} :
    item ∈ row (eraseEverywhere index erased) key ↔
      item ≠ erased ∧ item ∈ row index key := by
  rw [mem_row_iff, mem_row_iff, eraseEverywhere, ExtTreeMap.getElem?_filterMap']
  cases hget : index[key]? with
  | none => simp
  | some set => simpa using mem_eraseFrom item erased set

end Mbstf.SetIndex
