import Mbstf.Session.BitRate

/-!
# Decimal numerals

The grammar of decimal numerals, and the scanner as a reader for it: it finds the longest
numeral that a text begins with, if there is any, and its value.
-/

namespace Mbstf.Session

/-! ## The grammar -/

/-- A sign in front of digits. -/
inductive Sign where
  | absent
  | plus
  | minus

def Sign.text : Sign → List Char
  | .absent => []
  | .plus => ['+']
  | .minus => ['-']

def Sign.value : Sign → ℤ
  | .minus => -1
  | _ => 1

/-- A power of ten. -/
structure Exponent where
  mark : Char
  sign : Sign
  digits : List Char
  mark_eq : mark = 'e' ∨ mark = 'E'
  digits_isDigit : ∀ digit ∈ digits, digit.isDigit = true
  digits_ne_nil : digits ≠ []

def Exponent.text (exponent : Exponent) : List Char :=
  exponent.mark :: (exponent.sign.text ++ exponent.digits)

def Exponent.value (exponent : Exponent) : ℤ :=
  exponent.sign.value * digitsValue exponent.digits

/-- A decimal numeral, with a digit before the point or behind it. -/
structure Numeral where
  sign : Sign
  whole : List Char
  fraction : Option (List Char)
  exponent : Option Exponent
  whole_isDigit : ∀ digit ∈ whole, digit.isDigit = true
  fraction_isDigit : ∀ digit ∈ fraction.getD [], digit.isDigit = true
  digits_ne_nil : whole ++ fraction.getD [] ≠ []

/-- A fraction with its point. -/
def fractionText : Option (List Char) → List Char
  | none => []
  | some digits => '.' :: digits

def exponentText : Option Exponent → List Char
  | none => []
  | some exponent => exponent.text

def exponentValue : Option Exponent → ℤ
  | none => 0
  | some exponent => exponent.value

namespace Numeral

variable (numeral : Numeral)

def text : List Char :=
  numeral.sign.text ++
    (numeral.whole ++ (fractionText numeral.fraction ++ exponentText numeral.exponent))

def value : ℚ :=
  numeral.sign.value * (digitsValue (numeral.whole ++ numeral.fraction.getD []) : ℚ) *
    10 ^ (exponentValue numeral.exponent - (numeral.fraction.getD []).length)

/-- The longest numeral that a text begins with. -/
def IsLongest (text : List Char) : Prop :=
  numeral.text <+: text ∧
    ∀ other : Numeral, other.text <+: text → other.text.length ≤ numeral.text.length

end Numeral

/-! ## Characters -/

/-- A digit is neither white space nor a sign. -/
theorem isDigit_spec {digit : Char} (hdigit : digit.isDigit) :
    isSpace digit = false ∧ digit ≠ '-' ∧ digit ≠ '+' := by
  have hcode : 48 ≤ digit.toNat := by
    rw [Char.isDigit, Bool.and_eq_true, decide_eq_true_eq] at hdigit
    exact hdigit.1
  refine ⟨?_, ?_, ?_⟩
  · have hne : digit ≠ ' ' := by
      rintro rfl
      exact absurd hcode (by decide)
    have hlarge : ¬ digit.toNat ≤ 13 := by omega
    simp [isSpace, hne, hlarge]
  · rintro rfl
    exact absurd hcode (by decide)
  · rintro rfl
    exact absurd hcode (by decide)

theorem scanSign_of_ne {first : Char} (hminus : first ≠ '-') (hplus : first ≠ '+')
    (tail : List Char) : scanSign (first :: tail) = (1, 0, first :: tail) := by
  unfold scanSign
  split
  · rename_i heq
    exact absurd (List.cons.inj heq).1 hminus
  · rename_i heq
    exact absurd (List.cons.inj heq).1 hplus
  · rfl

theorem takeWhile_isDigit_of_not {first : Char} (hfirst : first.isDigit = false)
    (tail : List Char) : (first :: tail).takeWhile Char.isDigit = [] := by
  rw [List.takeWhile_cons, hfirst]
  rfl

theorem drop_length_takeWhile (keep : Char → Bool) (text : List Char) :
    text.drop (text.takeWhile keep).length = text.dropWhile keep := by
  calc text.drop (text.takeWhile keep).length
      = (text.takeWhile keep ++ text.dropWhile keep).drop (text.takeWhile keep).length := by
        rw [List.takeWhile_append_dropWhile]
    _ = text.dropWhile keep := List.drop_left

/-! ## The pieces -/

theorem scanSign_text_append (sign : Sign) {text : List Char}
    (htext : ∀ first ∈ text.head?, first ≠ '-' ∧ first ≠ '+') :
    scanSign (sign.text ++ text) = (sign.value, sign.text.length, text) := by
  cases sign with
  | plus => rfl
  | minus => rfl
  | absent =>
      cases text with
      | nil => rfl
      | cons first tail =>
          obtain ⟨hminus, hplus⟩ := htext first rfl
          exact scanSign_of_ne hminus hplus tail

theorem exists_sign (text : List Char) :
    ∃ (sign : Sign) (rest : List Char), text = sign.text ++ rest ∧
      scanSign text = (sign.value, sign.text.length, rest) := by
  unfold scanSign
  split
  case h_1 rest => exact ⟨.minus, rest, rfl, rfl⟩
  case h_2 rest => exact ⟨.plus, rest, rfl, rfl⟩
  case h_3 => exact ⟨.absent, text, rfl, rfl⟩

theorem exists_fraction (text : List Char) :
    ∃ (fraction : Option (List Char)) (rest : List Char), text = fractionText fraction ++ rest ∧
      (∀ digit ∈ fraction.getD [], digit.isDigit = true) ∧
      scanFraction text = (fraction.getD [], (fractionText fraction).length) := by
  unfold scanFraction
  split
  case h_1 rest =>
      refine ⟨some (rest.takeWhile Char.isDigit), rest.dropWhile Char.isDigit, ?_, ?_, ?_⟩
      · rw [fractionText, List.cons_append, List.takeWhile_append_dropWhile]
      · exact fun digit hdigit => List.mem_takeWhile_imp hdigit
      · rw [Option.getD_some, fractionText, List.length_cons, Nat.add_comm]
  case h_2 => exact ⟨none, text, rfl, by simp, rfl⟩

theorem exists_exponent (text : List Char) :
    ∃ (exponent : Option Exponent) (rest : List Char), text = exponentText exponent ++ rest ∧
      scanExponent text = (exponentValue exponent, (exponentText exponent).length) := by
  cases text with
  | nil => exact ⟨none, [], rfl, rfl⟩
  | cons mark tail =>
      obtain ⟨sign, rest, rfl, hsign⟩ := exists_sign tail
      rw [scanExponent, hsign]
      dsimp only
      split
      case isTrue hexponent =>
          refine ⟨some ⟨mark, sign, rest.takeWhile Char.isDigit, hexponent.1,
            fun digit hdigit => List.mem_takeWhile_imp hdigit, hexponent.2⟩,
            rest.dropWhile Char.isDigit, ?_, ?_⟩
          · rw [exponentText, Exponent.text, List.cons_append, List.append_assoc,
              List.takeWhile_append_dropWhile]
          · rw [exponentText, Exponent.text, List.length_cons, List.length_append, Nat.add_assoc,
              Nat.add_comm 1]
            rfl
      case isFalse => exact ⟨none, _, rfl, rfl⟩

/-! ## What the scanner finds -/

/-- The scanner, by what its parts find. -/
theorem scanNumeral_eq {text unsigned fraction : List Char} {sign exponent : ℤ}
    {signLength fractionLength exponentLength : ℕ}
    (hsign : scanSign text = (sign, signLength, unsigned))
    (hfraction : scanFraction (unsigned.dropWhile Char.isDigit) = (fraction, fractionLength))
    (hexponent : scanExponent ((unsigned.dropWhile Char.isDigit).drop fractionLength) =
      (exponent, exponentLength)) :
    scanNumeral text =
      if unsigned.takeWhile Char.isDigit ++ fraction = [] then none
      else some
        (sign * (digitsValue (unsigned.takeWhile Char.isDigit ++ fraction) : ℚ) *
          10 ^ (exponent - fraction.length),
          signLength + (unsigned.takeWhile Char.isDigit).length + fractionLength +
            exponentLength) := by
  rw [scanNumeral, hsign]
  dsimp only
  rw [drop_length_takeWhile, hfraction]
  dsimp only
  rw [← List.drop_drop, drop_length_takeWhile, hexponent]
  exact if_congr List.append_eq_nil_iff.symm rfl rfl

/-- What the scanner finds is a numeral. -/
theorem exists_numeral_of_scanNumeral {text : List Char} {value : ℚ} {length : ℕ}
    (hscan : scanNumeral text = some (value, length)) :
    ∃ numeral : Numeral, numeral.text <+: text ∧ numeral.value = value ∧
      numeral.text.length = length := by
  obtain ⟨sign, unsigned, rfl, hsign⟩ := exists_sign text
  obtain ⟨fraction, rest, hafter, hdigits, hfraction⟩ :=
    exists_fraction (unsigned.dropWhile Char.isDigit)
  obtain ⟨exponent, tail, hrest, hexponent⟩ := exists_exponent rest
  have hdrop : (unsigned.dropWhile Char.isDigit).drop (fractionText fraction).length = rest := by
    rw [hafter, List.drop_left]
  rw [scanNumeral_eq hsign hfraction (hdrop ▸ hexponent)] at hscan
  split at hscan
  case isTrue => cases hscan
  case isFalse hne =>
      obtain ⟨hvalue, hlength⟩ := Prod.mk.inj (Option.some.inj hscan)
      refine ⟨⟨sign, unsigned.takeWhile Char.isDigit, fraction, exponent,
        fun digit hdigit => List.mem_takeWhile_imp hdigit, hdigits, hne⟩, ⟨tail, ?_⟩, hvalue, ?_⟩
      · rw [Numeral.text]
        simp only [List.append_assoc]
        rw [← hrest, ← hafter, List.takeWhile_append_dropWhile]
      · rw [Numeral.text, ← hlength]
        simp only [List.length_append]
        omega

/-- Digits are read to their end. -/
theorem takeWhile_digits_append {digits : List Char}
    (hdigits : ∀ digit ∈ digits, digit.isDigit = true) (rest : List Char) :
    (digits ++ rest).takeWhile Char.isDigit = digits ++ rest.takeWhile Char.isDigit :=
  List.takeWhile_append_of_pos hdigits

theorem dropWhile_digits_append {digits : List Char}
    (hdigits : ∀ digit ∈ digits, digit.isDigit = true) (rest : List Char) :
    (digits ++ rest).dropWhile Char.isDigit = rest.dropWhile Char.isDigit :=
  List.dropWhile_append_of_pos hdigits

/-- An exponent is read at least to its end. -/
theorem scanExponent_text_append (exponent : Exponent) (rest : List Char) :
    scanExponent (exponent.text ++ rest) =
      (exponent.sign.value * digitsValue (exponent.digits ++ rest.takeWhile Char.isDigit),
        exponent.text.length + (rest.takeWhile Char.isDigit).length) := by
  have hsign : scanSign (exponent.sign.text ++ (exponent.digits ++ rest)) =
      (exponent.sign.value, exponent.sign.text.length, exponent.digits ++ rest) := by
    apply scanSign_text_append
    intro first hfirst
    rw [List.head?_append_of_ne_nil _ exponent.digits_ne_nil] at hfirst
    exact (isDigit_spec (exponent.digits_isDigit first (List.mem_of_mem_head? hfirst))).2
  rw [Exponent.text, List.cons_append, List.append_assoc, scanExponent, hsign]
  dsimp only
  rw [takeWhile_digits_append exponent.digits_isDigit, if_pos]
  · rw [List.length_append, List.length_cons, List.length_append]
    exact congrArg (Prod.mk _) (by omega)
  · refine ⟨exponent.mark_eq, ?_⟩
    exact List.append_ne_nil_of_left_ne_nil exponent.digits_ne_nil _

/-- Without a character there is no exponent. -/
theorem scanExponent_of_length_zero {text : List Char} (hlength : (scanExponent text).2 = 0) :
    (scanExponent text).1 = 0 := by
  obtain ⟨exponent, rest, -, hscan⟩ := exists_exponent text
  rw [hscan] at hlength ⊢
  cases exponent with
  | none => rfl
  | some exponent => cases hlength

theorem scanFraction_of_length_zero {text : List Char} (hlength : (scanFraction text).2 = 0) :
    (scanFraction text).1 = [] := by
  obtain ⟨fraction, rest, -, -, hscan⟩ := exists_fraction text
  rw [hscan] at hlength ⊢
  cases fraction with
  | none => rfl
  | some digits => cases hlength

theorem isDigit_of_mark {mark : Char} (hmark : mark = 'e' ∨ mark = 'E') :
    mark.isDigit = false ∧ mark ≠ '.' := by
  rcases hmark with rfl | rfl
  · decide
  · decide

theorem scanFraction_of_ne {first : Char} (hfirst : first ≠ '.') (tail : List Char) :
    scanFraction (first :: tail) = ([], 0) := by
  unfold scanFraction
  split
  · rename_i heq
    exact absurd (List.cons.inj heq).1 hfirst
  · rfl

theorem exponent_text_eq (exponent : Exponent) (rest : List Char) :
    exponent.text ++ rest = exponent.mark :: (exponent.sign.text ++ exponent.digits ++ rest) := by
  rw [Exponent.text, List.cons_append]

/-- Digits behind the fraction, and then the exponent: what is there is read, and nothing
else if no more is read. -/
theorem scan_exponentText_append (exponent : Option Exponent) (rest : List Char) :
    (exponentText exponent).length ≤
        ((exponentText exponent ++ rest).takeWhile Char.isDigit).length +
          (scanExponent ((exponentText exponent ++ rest).dropWhile Char.isDigit)).2 ∧
      (((exponentText exponent ++ rest).takeWhile Char.isDigit).length +
          (scanExponent ((exponentText exponent ++ rest).dropWhile Char.isDigit)).2 =
            (exponentText exponent).length →
        (exponentText exponent ++ rest).takeWhile Char.isDigit = [] ∧
          (scanExponent ((exponentText exponent ++ rest).dropWhile Char.isDigit)).1 =
            exponentValue exponent) := by
  cases exponent with
  | none =>
      refine ⟨Nat.zero_le _, fun hlength => ?_⟩
      obtain ⟨htake, hscan⟩ := Nat.add_eq_zero_iff.mp hlength
      exact ⟨List.length_eq_zero_iff.mp htake, scanExponent_of_length_zero hscan⟩
  | some exponent =>
      have hmark : exponent.mark.isDigit = false := (isDigit_of_mark exponent.mark_eq).1
      have htake : (exponent.text ++ rest).takeWhile Char.isDigit = [] :=
        takeWhile_isDigit_of_not hmark _
      have hdrop : (exponent.text ++ rest).dropWhile Char.isDigit = exponent.text ++ rest := by
        rw [exponent_text_eq, List.dropWhile_cons, hmark]
        rfl
      rw [exponentText, htake, hdrop, scanExponent_text_append, exponentValue]
      refine ⟨by simp, fun hlength => ⟨rfl, ?_⟩⟩
      have hmore : rest.takeWhile Char.isDigit = [] := by
        apply List.length_eq_zero_iff.mp
        simp only [List.length_nil] at hlength
        omega
      rw [hmore, List.append_nil, Exponent.value]

/-- A numeral starts with a sign, a digit or the point. -/
theorem Numeral.head_unsigned (numeral : Numeral) (rest : List Char) :
    ∀ first ∈ (numeral.whole ++ (fractionText numeral.fraction ++ rest)).head?,
      first ≠ '-' ∧ first ≠ '+' := by
  intro first hfirst
  cases hwhole : numeral.whole with
  | cons digit digits =>
      rw [hwhole] at hfirst
      obtain rfl := Option.some.inj hfirst
      exact (isDigit_spec (numeral.whole_isDigit digit (hwhole ▸ List.mem_cons_self))).2
  | nil =>
      have hne := numeral.digits_ne_nil
      cases hfraction : numeral.fraction with
      | none =>
          rw [hwhole, hfraction] at hne
          exact absurd rfl hne
      | some digits =>
          rw [hwhole, hfraction] at hfirst
          obtain rfl := Option.some.inj hfirst
          decide

/-- What is read of a numeral behind its sign and its whole digits decides what is read of it. -/
theorem scanNumeral_of_remaining {numeral : Numeral} {text remaining fraction : List Char}
    {exponent : ℤ} {fractionLength exponentLength : ℕ}
    (hsign : scanSign text =
      (numeral.sign.value, numeral.sign.text.length, numeral.whole ++ remaining))
    (hfraction : scanFraction (remaining.dropWhile Char.isDigit) = (fraction, fractionLength))
    (hexponent : scanExponent ((remaining.dropWhile Char.isDigit).drop fractionLength) =
      (exponent, exponentLength))
    (hne : numeral.whole ++ (remaining.takeWhile Char.isDigit ++ fraction) ≠ [])
    (hlong : (fractionText numeral.fraction).length + (exponentText numeral.exponent).length ≤
      (remaining.takeWhile Char.isDigit).length + fractionLength + exponentLength)
    (hexact : (remaining.takeWhile Char.isDigit).length + fractionLength + exponentLength =
        (fractionText numeral.fraction).length + (exponentText numeral.exponent).length →
      remaining.takeWhile Char.isDigit = [] ∧ fraction = numeral.fraction.getD [] ∧
        exponent = exponentValue numeral.exponent) :
    ∃ value length, scanNumeral text = some (value, length) ∧ numeral.text.length ≤ length ∧
      (length = numeral.text.length → value = numeral.value) := by
  have hdrop := dropWhile_digits_append numeral.whole_isDigit remaining
  have htake := takeWhile_digits_append numeral.whole_isDigit remaining
  have htext : numeral.text.length = numeral.sign.text.length + numeral.whole.length +
      ((fractionText numeral.fraction).length + (exponentText numeral.exponent).length) := by
    rw [Numeral.text]
    simp only [List.length_append]
    omega
  rw [scanNumeral_eq hsign (hdrop ▸ hfraction) (hdrop ▸ hexponent), htake, List.append_assoc,
    if_neg hne, List.length_append]
  refine ⟨_, _, rfl, by omega, fun hlength => ?_⟩
  obtain ⟨hmore, hdigits, hpower⟩ := hexact (by omega)
  rw [hmore, hdigits, hpower, List.nil_append, Numeral.value]

section

variable {numeral : Numeral} {text rest : List Char}

/-- The digits behind a point may go on, and then there is no exponent. -/
theorem scanNumeral_of_fraction {digits : List Char} (hpoint : numeral.fraction = some digits)
    (hsign : scanSign text = (numeral.sign.value, numeral.sign.text.length, numeral.whole ++
      (fractionText numeral.fraction ++ (exponentText numeral.exponent ++ rest)))) :
    ∃ value length, scanNumeral text = some (value, length) ∧ numeral.text.length ≤ length ∧
      (length = numeral.text.length → value = numeral.value) := by
  have hne := numeral.digits_ne_nil
  have hdigits : ∀ digit ∈ digits, digit.isDigit = true := by
    have hall := numeral.fraction_isDigit
    rwa [hpoint] at hall
  obtain ⟨hlong, hexact⟩ := scan_exponentText_append numeral.exponent rest
  generalize exponentText numeral.exponent ++ rest = behind at hsign hlong hexact
  rw [hpoint, fractionText, List.cons_append] at hsign
  rw [hpoint, Option.getD_some] at hne
  have hnone : ('.' :: (digits ++ behind)).takeWhile Char.isDigit = [] := rfl
  have hsame : ('.' :: (digits ++ behind)).dropWhile Char.isDigit = '.' :: (digits ++ behind) :=
    rfl
  have htake := takeWhile_digits_append hdigits behind
  have hdrop : ('.' :: (digits ++ behind)).drop
      (1 + (digits ++ behind.takeWhile Char.isDigit).length) = behind.dropWhile Char.isDigit := by
    rw [Nat.add_comm, List.drop_succ_cons, List.length_append, ← List.drop_drop,
      List.drop_left, drop_length_takeWhile]
  refine scanNumeral_of_remaining hsign (by rw [hsame, scanFraction, htake])
    (by rw [hsame, hdrop]) ?_ ?_ ?_
  · rw [hnone, List.nil_append, ← List.append_assoc]
    exact List.append_ne_nil_of_left_ne_nil hne _
  · rw [hpoint, hnone, fractionText]
    simp only [List.length_cons, List.length_append, List.length_nil]
    omega
  · rw [hpoint, hnone, fractionText]
    intro hlength
    simp only [List.length_cons, List.length_append, List.length_nil] at hlength
    obtain ⟨hmore, hvalue⟩ := hexact (by omega)
    rw [hmore, List.append_nil]
    exact ⟨rfl, rfl, hvalue⟩

/-- Behind the mark of an exponent there is no fraction. -/
theorem scanNumeral_of_exponent {exponent : Exponent} (hpoint : numeral.fraction = none)
    (hpower : numeral.exponent = some exponent)
    (hsign : scanSign text = (numeral.sign.value, numeral.sign.text.length, numeral.whole ++
      (fractionText numeral.fraction ++ (exponentText numeral.exponent ++ rest)))) :
    ∃ value length, scanNumeral text = some (value, length) ∧ numeral.text.length ≤ length ∧
      (length = numeral.text.length → value = numeral.value) := by
  have hne := numeral.digits_ne_nil
  rw [hpoint, Option.getD_none, List.append_nil] at hne
  have hmark := isDigit_of_mark exponent.mark_eq
  obtain ⟨hlong, hexact⟩ := scan_exponentText_append (some exponent) rest
  rw [hpoint, hpower, fractionText, exponentText, List.nil_append] at hsign
  rw [exponentText] at hlong hexact
  have hnone : (exponent.text ++ rest).takeWhile Char.isDigit = [] :=
    takeWhile_isDigit_of_not hmark.1 _
  have hsame : (exponent.text ++ rest).dropWhile Char.isDigit =
      exponent.mark :: (exponent.sign.text ++ exponent.digits ++ rest) := by
    rw [exponent_text_eq, List.dropWhile_cons, hmark.1]
    rfl
  have hread : scanExponent (((exponent.text ++ rest).dropWhile Char.isDigit).drop 0) =
      ((scanExponent ((exponent.text ++ rest).dropWhile Char.isDigit)).1,
        (scanExponent ((exponent.text ++ rest).dropWhile Char.isDigit)).2) := rfl
  refine scanNumeral_of_remaining hsign (hsame ▸ scanFraction_of_ne hmark.2 _) hread ?_ ?_ ?_
  · exact List.append_ne_nil_of_left_ne_nil hne _
  · rw [hpoint, hpower]
    simpa [fractionText, exponentText] using hlong
  · rw [hpoint, hpower]
    intro hlength
    obtain ⟨-, hvalue⟩ := hexact (by simpa [fractionText, exponentText] using hlength)
    exact ⟨hnone, rfl, hvalue⟩

/-- Whole digits alone may go on, and a fraction and an exponent may follow them. -/
theorem scanNumeral_of_whole (hpoint : numeral.fraction = none) (hpower : numeral.exponent = none)
    (hsign : scanSign text = (numeral.sign.value, numeral.sign.text.length, numeral.whole ++
      (fractionText numeral.fraction ++ (exponentText numeral.exponent ++ rest)))) :
    ∃ value length, scanNumeral text = some (value, length) ∧ numeral.text.length ≤ length ∧
      (length = numeral.text.length → value = numeral.value) := by
  have hne := numeral.digits_ne_nil
  rw [hpoint, Option.getD_none, List.append_nil] at hne
  rw [hpoint, hpower, fractionText, exponentText, List.nil_append, List.nil_append] at hsign
  refine scanNumeral_of_remaining hsign rfl rfl ?_ ?_ ?_
  · exact List.append_ne_nil_of_left_ne_nil hne _
  · rw [hpoint, hpower]
    exact Nat.zero_le _
  · rw [hpoint, hpower]
    intro hlength
    obtain ⟨hshort, hpowerLength⟩ := Nat.add_eq_zero_iff.mp hlength
    obtain ⟨hmore, hpointLength⟩ := Nat.add_eq_zero_iff.mp hshort
    exact ⟨List.length_eq_zero_iff.mp hmore, scanFraction_of_length_zero hpointLength,
      scanExponent_of_length_zero hpowerLength⟩

end

/-- The scanner reads a numeral at least to its end, and if it stops there it has the value. -/
theorem scanNumeral_text_append (numeral : Numeral) (rest : List Char) :
    ∃ value length, scanNumeral (numeral.text ++ rest) = some (value, length) ∧
      numeral.text.length ≤ length ∧ (length = numeral.text.length → value = numeral.value) := by
  have hsign : scanSign (numeral.text ++ rest) =
      (numeral.sign.value, numeral.sign.text.length, numeral.whole ++
        (fractionText numeral.fraction ++ (exponentText numeral.exponent ++ rest))) := by
    rw [Numeral.text]
    simp only [List.append_assoc]
    exact scanSign_text_append numeral.sign (numeral.head_unsigned _)
  cases hpoint : numeral.fraction with
  | some digits => exact scanNumeral_of_fraction hpoint hsign
  | none =>
      cases hpower : numeral.exponent with
      | some exponent => exact scanNumeral_of_exponent hpoint hpower hsign
      | none => exact scanNumeral_of_whole hpoint hpower hsign

/-! ## The longest numeral -/

theorem scanNumeral_of_isLongest {numeral : Numeral} {text : List Char}
    (hlongest : numeral.IsLongest text) :
    scanNumeral text = some (numeral.value, numeral.text.length) := by
  obtain ⟨⟨rest, rfl⟩, hlonger⟩ := hlongest
  obtain ⟨value, length, hscan, hlong, hvalue⟩ := scanNumeral_text_append numeral rest
  obtain ⟨found, hfound, -, rfl⟩ := exists_numeral_of_scanNumeral hscan
  have hlength : found.text.length = numeral.text.length := (hlonger found hfound).antisymm hlong
  rw [hscan, hvalue hlength, hlength]

/-- The scanner finds the longest numeral. -/
theorem exists_isLongest_of_scanNumeral {text : List Char} {value : ℚ} {length : ℕ}
    (hscan : scanNumeral text = some (value, length)) :
    ∃ numeral : Numeral, numeral.IsLongest text ∧ numeral.value = value ∧
      numeral.text.length = length := by
  obtain ⟨numeral, hnumeral, hvalue, hlength⟩ := exists_numeral_of_scanNumeral hscan
  refine ⟨numeral, ⟨hnumeral, ?_⟩, hvalue, hlength⟩
  rintro other ⟨rest, rfl⟩
  obtain ⟨read, readLength, hread, hlong, -⟩ := scanNumeral_text_append other rest
  rw [hscan] at hread
  rw [hlength, (Prod.mk.inj (Option.some.inj hread)).2]
  exact hlong

/-- A numeral is the longest one that it begins with. -/
theorem Numeral.isLongest_text (numeral : Numeral) : numeral.IsLongest numeral.text :=
  ⟨List.prefix_refl _, fun _ hother => hother.length_le⟩

end Mbstf.Session
