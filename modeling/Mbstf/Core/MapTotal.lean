import Mathlib

/-!
# Totals over a map

The sum of a weight over the values of an ordered map, and how it changes when a
key is added or taken away.
-/

namespace Mbstf.MapTotal

open Std

variable {Key Value Weight : Type*}
variable [Ord Key] [TransOrd Key] [AddCommMonoid Weight] (weight : Value → Weight)

/-- The sum of the weights of all values. -/
def total (map : ExtTreeMap Key Value) : Weight :=
  (map.toList.map fun entry => weight entry.2).sum

@[simp]
theorem total_empty : total weight (∅ : ExtTreeMap Key Value) = 0 := by
  have hnil : (∅ : ExtTreeMap Key Value).toList = [] := by simp
  rw [total, hnil, List.map_nil, List.sum_nil]

variable [LawfulEqOrd Key]

theorem nodup_toList (map : ExtTreeMap Key Value) : map.toList.Nodup := by
  refine map.distinct_keys_toList.imp fun hne heq => hne ?_
  rw [heq]
  exact LawfulEqCmp.compare_eq_iff_eq.mpr rfl

/-- The entries of a map with one more key. -/
theorem toList_insertIfNew_perm {map : ExtTreeMap Key Value} {key : Key} {value : Value}
    (hkey : key ∉ map) :
    (map.insertIfNew key value).toList.Perm ((key, value) :: map.toList) := by
  have hfresh : (key, value) ∉ map.toList := by
    intro hmem
    rw [ExtTreeMap.mem_toList_iff_getElem?_eq_some] at hmem
    exact hkey (ExtTreeMap.mem_iff_isSome_getElem?.mpr (by rw [hmem]; rfl))
  have hnodup : ((key, value) :: map.toList).Nodup :=
    List.nodup_cons.mpr ⟨hfresh, nodup_toList map⟩
  rw [List.perm_ext_iff_of_nodup (nodup_toList _) hnodup]
  rintro ⟨other, found⟩
  rw [ExtTreeMap.mem_toList_iff_getElem?_eq_some, ExtTreeMap.getElem?_insertIfNew,
    List.mem_cons, ExtTreeMap.mem_toList_iff_getElem?_eq_some]
  by_cases hsame : other = key
  · subst hsame
    simp [hkey, eq_comm]
  · have hcompare : compare key other ≠ .eq := by
      intro heq
      exact hsame (LawfulEqCmp.compare_eq_iff_eq.mp heq).symm
    simp [hcompare, hsame]

/-- The entries of a map before one of its keys was erased. -/
theorem toList_erase_perm {map : ExtTreeMap Key Value} {key : Key} {value : Value}
    (hvalue : map[key]? = some value) :
    map.toList.Perm ((key, value) :: (map.erase key).toList) := by
  have herased : (key, value) ∉ (map.erase key).toList := by
    simp [ExtTreeMap.mem_toList_iff_getElem?_eq_some]
  have hnodup : ((key, value) :: (map.erase key).toList).Nodup :=
    List.nodup_cons.mpr ⟨herased, nodup_toList _⟩
  rw [List.perm_ext_iff_of_nodup (nodup_toList _) hnodup]
  rintro ⟨other, found⟩
  rw [ExtTreeMap.mem_toList_iff_getElem?_eq_some, List.mem_cons,
    ExtTreeMap.mem_toList_iff_getElem?_eq_some, ExtTreeMap.getElem?_erase]
  by_cases hsame : other = key
  · subst hsame
    simp [hvalue, eq_comm]
  · have hcompare : compare key other ≠ .eq := by
      intro heq
      exact hsame (LawfulEqCmp.compare_eq_iff_eq.mp heq).symm
    simp [hcompare, hsame]

theorem total_insertIfNew {map : ExtTreeMap Key Value} {key : Key} {value : Value}
    (hkey : key ∉ map) :
    total weight (map.insertIfNew key value) = weight value + total weight map := by
  rw [total, ((toList_insertIfNew_perm hkey).map _).sum_eq, List.map_cons, List.sum_cons,
    total]

theorem total_erase {map : ExtTreeMap Key Value} {key : Key} {value : Value}
    (hvalue : map[key]? = some value) :
    total weight map = weight value + total weight (map.erase key) := by
  rw [total, ((toList_erase_perm hvalue).map _).sum_eq, List.map_cons, List.sum_cons, total]

end Mbstf.MapTotal
