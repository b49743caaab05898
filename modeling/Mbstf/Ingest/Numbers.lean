import Mbstf.Session.Numerals

/-!
# Whole numbers in header fields

`std::stoul` and `std::stoi` with base ten.  Both skip white space, take a sign, and
read the digits that follow; what comes after these is ignored.
-/

namespace Mbstf.Ingest

open Mbstf.Session

/-- The sign and the digits a text begins with, after white space. -/
def scanWhole (text : List Char) : ℤ × List Char :=
  let (sign, _, unsigned) := scanSign (text.dropWhile isSpace)
  (sign, unsigned.takeWhile Char.isDigit)

/-- `std::stoul(text)`; a number with a minus is negated modulo `2 ^ 64`. -/
def stoul (text : List Char) : Except StdException ℕ :=
  let (sign, digits) := scanWhole text
  if digits = [] then .error ⟨.invalidArgument, "stoul"⟩
  else if 2 ^ 64 ≤ digitsValue digits then .error ⟨.outOfRange, "stoul"⟩
  else .ok ((sign * digitsValue digits) % 2 ^ 64).toNat

/-- `std::stoi(text)`. -/
def stoi (text : List Char) : Except StdException ℤ :=
  let (sign, digits) := scanWhole text
  let value : ℤ := sign * digitsValue digits
  if digits = [] then .error ⟨.invalidArgument, "stoi"⟩
  else if -2 ^ 31 ≤ value ∧ value < 2 ^ 31 then .ok value
  else .error ⟨.outOfRange, "stoi"⟩

/-- A decimal number that fits an `unsigned long`. -/
def IsUnsignedLong (text : List Char) : Prop :=
  text ≠ [] ∧ (∀ digit ∈ text, digit.isDigit) ∧ digitsValue text < 2 ^ 64

instance (text : List Char) : Decidable (IsUnsignedLong text) :=
  decidable_of_iff (text ≠ [] ∧ text.all Char.isDigit ∧ digitsValue text < 2 ^ 64)
    (by rw [IsUnsignedLong, List.all_eq_true])

theorem scanWhole_of_digits {text : List Char} (hne : text ≠ [])
    (hdigits : ∀ digit ∈ text, digit.isDigit) : scanWhole text = (1, text) := by
  cases text with
  | nil => exact absurd rfl hne
  | cons digit rest =>
      obtain ⟨hspace, hminus, hplus⟩ := isDigit_spec (hdigits digit List.mem_cons_self)
      have hdrop : (digit :: rest).dropWhile isSpace = digit :: rest := by
        rw [List.dropWhile_cons, hspace]
        rfl
      have htake : (digit :: rest).takeWhile Char.isDigit = digit :: rest :=
        List.takeWhile_eq_self_iff.mpr hdigits
      rw [scanWhole, hdrop, scanSign_of_ne hminus hplus]
      exact congrArg (Prod.mk 1) htake

/-- A decimal number that fits is read as it is. -/
theorem stoul_of_isUnsignedLong {text : List Char} (htext : IsUnsignedLong text) :
    stoul text = .ok (digitsValue text) := by
  obtain ⟨hne, hdigits, hfits⟩ := htext
  have hvalue : ((1 * (digitsValue text : ℤ)) % 2 ^ 64).toNat = digitsValue text := by
    rw [one_mul]
    omega
  simp only [stoul, scanWhole_of_digits hne hdigits, if_neg hne, if_neg (not_le.mpr hfits),
    hvalue]

/-! ## Numbers that are cut off -/

section

variable {keep : Char → Bool} {text : List Char}

/-- The digits of what is kept, when digits are. -/
theorem takeWhile_digits (hdigit : ∀ digit : Char, digit.isDigit → keep digit)
    (rest : List Char) :
    (rest.takeWhile keep).takeWhile Char.isDigit = rest.takeWhile Char.isDigit := by
  rw [List.takeWhile_takeWhile]
  congr 1
  funext digit
  by_cases his : digit.isDigit
  · simp [his, hdigit digit his]
  · simp [his]

/-- What is kept behind the white space, when that is. -/
theorem dropWhile_takeWhile (hblank : ∀ blank ∈ text.takeWhile isSpace, keep blank) :
    (text.takeWhile keep).dropWhile isSpace = (text.dropWhile isSpace).takeWhile keep := by
  have hsplit : text = text.takeWhile isSpace ++ text.dropWhile isSpace :=
    List.takeWhile_append_dropWhile.symm
  conv_lhs => rw [hsplit]
  rw [List.takeWhile_append_of_pos hblank,
    List.dropWhile_append_of_pos fun blank hin => List.mem_takeWhile_imp hin]
  cases hrest : text.dropWhile isSpace with
  | nil => rfl
  | cons first rest =>
      have hfirst : isSpace first = false := by
        have hhead := List.head?_dropWhile_not isSpace text
        rw [hrest] at hhead
        simpa using hhead
      rw [List.takeWhile_cons]
      split
      · rw [List.dropWhile_cons, hfirst]
        rfl
      · rfl

/-- Cutting a text off behind its number changes nothing. -/
theorem scanWhole_takeWhile (hdigit : ∀ digit : Char, digit.isDigit → keep digit)
    (hminus : keep '-') (hplus : keep '+') (hblank : ∀ blank ∈ text.takeWhile isSpace, keep blank) :
    scanWhole (text.takeWhile keep) = scanWhole text := by
  unfold scanWhole
  rw [dropWhile_takeWhile hblank]
  cases hrest : text.dropWhile isSpace with
  | nil => rfl
  | cons first rest =>
      by_cases hfirst : first = '-'
      · subst hfirst
        rw [List.takeWhile_cons, if_pos hminus]
        exact congrArg (Prod.mk (-1)) (takeWhile_digits hdigit rest)
      · by_cases hother : first = '+'
        · subst hother
          rw [List.takeWhile_cons, if_pos hplus]
          exact congrArg (Prod.mk 1) (takeWhile_digits hdigit rest)
        · have hcut : scanSign ((first :: rest).takeWhile keep) =
              (1, 0, (first :: rest).takeWhile keep) := by
            rw [List.takeWhile_cons]
            split
            · exact scanSign_of_ne hfirst hother _
            · rfl
          rw [scanSign_of_ne hfirst hother, hcut]
          exact congrArg (Prod.mk 1) (takeWhile_digits hdigit (first :: rest))

/-- Cutting a text off in the white space before its number leaves no number. -/
theorem scanWhole_takeWhile_blank (hblank : ∃ blank ∈ text.takeWhile isSpace, keep blank = false) :
    (scanWhole (text.takeWhile keep)).2 = [] := by
  have hspaces : ∀ blank ∈ text.takeWhile keep, isSpace blank := by
    obtain ⟨stop, hstop, hkeep⟩ := hblank
    obtain ⟨before, after, hbefore⟩ := List.append_of_mem hstop
    have htext : text = before ++ stop :: (after ++ text.dropWhile isSpace) := by
      rw [← List.cons_append, ← List.append_assoc, ← hbefore, List.takeWhile_append_dropWhile]
    intro blank hin
    rw [htext] at hin
    have hmem : blank ∈ before := by
      rw [List.takeWhile_append] at hin
      split at hin
      · rw [List.takeWhile_cons, hkeep] at hin
        simpa using hin
      · exact (List.takeWhile_prefix keep).subset hin
    exact List.mem_takeWhile_imp (hbefore ▸ List.mem_append_left _ hmem)
  have hdrop : (text.takeWhile keep).dropWhile isSpace = [] :=
    List.dropWhile_eq_nil_iff.mpr hspaces
  unfold scanWhole
  rw [hdrop]
  rfl

end

end Mbstf.Ingest
