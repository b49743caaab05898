import Mathlib

/-!
# String views with their preconditions

The members of `std::string_view` that take a view apart, with what goes wrong
when their preconditions are broken.  A computation on views may also throw, so
a fault carries the exceptions of the program as a parameter.
-/

namespace Mbstf.StringView

/-- What a computation on views may end with. -/
inductive Fault (Exception : Type) where
  | thrown (exception : Exception)
  | emptyFront
  | prefixTooLong
  | outOfRange
  deriving DecidableEq

variable {Exception : Type}

/-- `remove_prefix(count)`. -/
def removePrefix (count : ℕ) (view : List Char) : Except (Fault Exception) (List Char) :=
  if count ≤ view.length then .ok (view.drop count) else .error .prefixTooLong

/-- `substr(position, count)`. -/
def substr (position count : ℕ) (view : List Char) : Except (Fault Exception) (List Char) :=
  if position ≤ view.length then .ok ((view.drop position).take count) else .error .outOfRange

/-- `find_first_of`, from a position on; `npos` is `none`. -/
def findFirstOf (wanted : Char → Bool) (position : ℕ) (view : List Char) : Option ℕ :=
  ((view.drop position).findIdx? wanted).map (position + ·)

/-- `find(pattern)`. -/
def find (pattern : List Char) : List Char → Option ℕ
  | [] => if pattern = [] then some 0 else none
  | first :: rest =>
      if pattern.isPrefixOf (first :: rest) then some 0 else (find pattern rest).map (· + 1)

/-- `while (view.front() == ' ') view.remove_prefix(1);` -/
def skipBlanks : List Char → Except (Fault Exception) (List Char)
  | [] => .error .emptyFront
  | first :: rest => if first = ' ' then skipBlanks rest else .ok (first :: rest)

/-- The same loop, with the test that the view is not empty. -/
def skipBlanksIfAny : List Char → List Char
  | [] => []
  | first :: rest => if first = ' ' then skipBlanksIfAny rest else first :: rest

variable {view : List Char}

theorem removePrefix_ok {count : ℕ} (hcount : count ≤ view.length) :
    (removePrefix count view : Except (Fault Exception) _) = .ok (view.drop count) :=
  if_pos hcount

theorem removePrefix_of_isPrefixOf {pattern : List Char} (hview : pattern.isPrefixOf view) :
    (removePrefix pattern.length view : Except (Fault Exception) _) =
      .ok (view.drop pattern.length) :=
  removePrefix_ok (List.isPrefixOf_iff_prefix.mp hview).length_le

theorem substr_ok {position : ℕ} (hposition : position ≤ view.length) (count : ℕ) :
    (substr position count view : Except (Fault Exception) _) =
      .ok ((view.drop position).take count) :=
  if_pos hposition

theorem findFirstOf_zero (wanted : Char → Bool) (view : List Char) :
    findFirstOf wanted 0 view = view.findIdx? wanted := by
  rw [findFirstOf, List.drop_zero]
  simp

/-- Nothing that is wanted: the whole view is passed over. -/
theorem takeWhile_of_findIdx?_none {wanted : Char → Bool}
    (hnone : view.findIdx? wanted = none) : view.takeWhile (!wanted ·) = view := by
  rw [List.takeWhile_eq_self_iff]
  intro character hin
  rw [List.findIdx?_eq_none_iff.mp hnone character hin]
  rfl

/-- What stands before the first wanted character, and what begins with it. -/
theorem take_of_findIdx? {wanted : Char → Bool} {position : ℕ}
    (hsome : view.findIdx? wanted = some position) :
    position < view.length ∧ view.take position = view.takeWhile (!wanted ·) ∧
      view.drop position = view.dropWhile (!wanted ·) := by
  obtain ⟨hlt, hposition⟩ := List.findIdx?_eq_some_iff_findIdx_eq.mp hsome
  have hsame : view.findIdx (fun character => !(!wanted character)) = position := by
    simpa using hposition
  refine ⟨hlt, ?_, ?_⟩
  · rw [List.takeWhile_eq_take_findIdx_not, hsame]
  · rw [List.dropWhile_eq_drop_findIdx_not, hsame]

/-- A pattern that is found fits into the view. -/
theorem find_le {pattern : List Char} {position : ℕ} (hfind : find pattern view = some position) :
    position + pattern.length ≤ view.length := by
  induction view generalizing position with
  | nil =>
      rw [find] at hfind
      split at hfind
      · rename_i hempty
        cases hfind
        simp [hempty]
      · cases hfind
  | cons first rest ih =>
      rw [find] at hfind
      split at hfind
      · rename_i hhere
        cases hfind
        rw [Nat.zero_add]
        exact (List.isPrefixOf_iff_prefix.mp hhere).length_le
      · obtain ⟨later, hlater, rfl⟩ := Option.map_eq_some_iff.mp hfind
        have hle := ih hlater
        rw [List.length_cons]
        omega

/-- It stands where it is found. -/
theorem isPrefixOf_drop_find {pattern : List Char} {position : ℕ}
    (hfind : find pattern view = some position) : pattern <+: view.drop position := by
  induction view generalizing position with
  | nil =>
      rw [find] at hfind
      split at hfind
      · rename_i hempty
        rw [hempty]
        exact List.nil_prefix
      · cases hfind
  | cons first rest ih =>
      rw [find] at hfind
      split at hfind
      · rename_i hhere
        cases hfind
        exact List.isPrefixOf_iff_prefix.mp hhere
      · obtain ⟨later, hlater, rfl⟩ := Option.map_eq_some_iff.mp hfind
        exact ih hlater

/-- The loop without the test goes through when the view is not all blanks. -/
theorem skipBlanks_eq (view : List Char) :
    (skipBlanks view : Except (Fault Exception) _) =
      if view.dropWhile (· = ' ') = [] then .error .emptyFront
      else .ok (view.dropWhile (· = ' ')) := by
  induction view with
  | nil => rfl
  | cons first rest ih =>
      rw [skipBlanks, List.dropWhile_cons]
      by_cases hblank : first = ' '
      · simp only [hblank, if_true, decide_true, ih]
      · simp [hblank]

theorem skipBlanksIfAny_eq (view : List Char) :
    skipBlanksIfAny view = view.dropWhile (· = ' ') := by
  induction view with
  | nil => rfl
  | cons first rest ih =>
      rw [skipBlanksIfAny, List.dropWhile_cons]
      by_cases hblank : first = ' '
      · simp [hblank, ih]
      · simp [hblank]

/-! ## Names in front of a character -/

section

variable {stop : Char} {before spelling : List Char}

theorem takeWhile_ne_append (hbefore : stop ∉ before) (behind : List Char) :
    (before ++ stop :: behind).takeWhile (· ≠ stop) = before := by
  have hall : ∀ character ∈ before, decide (character ≠ stop) = true := by
    intro character hin
    exact decide_eq_true fun heq => hbefore (heq ▸ hin)
  rw [List.takeWhile_append_of_pos hall, List.takeWhile_cons]
  simp

/-- A text begins with a name and a character when its own name is that name. -/
theorem isPrefixOf_name_iff (hspelling : stop ∉ spelling) (hbefore : stop ∉ before)
    (behind : List Char) :
    (spelling ++ [stop]).isPrefixOf (before ++ stop :: behind) ↔ before = spelling := by
  rw [List.isPrefixOf_iff_prefix]
  constructor
  · rintro ⟨rest, hrest⟩
    rw [List.append_assoc] at hrest
    calc before = (before ++ stop :: behind).takeWhile (· ≠ stop) :=
          (takeWhile_ne_append hbefore behind).symm
      _ = (spelling ++ stop :: rest).takeWhile (· ≠ stop) := by
          rw [← hrest]
          rfl
      _ = spelling := takeWhile_ne_append hspelling rest
  · rintro rfl
    exact ⟨behind, by simp⟩

end

end Mbstf.StringView
