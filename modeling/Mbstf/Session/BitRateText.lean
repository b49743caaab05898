import Mbstf.Core.StringView
import Mbstf.Session.Numerals

/-!
# Bit rates as text

A string should be accepted if it is a decimal numeral, alone or with one blank and a unit
behind it, and should be turned down with the old rate in place otherwise.  The end of the
numeral is looked at in one of two branches, when the rate has been written already.  Here
`std::stod` reads decimal numerals only, and their exact values; on these it agrees with the
one that rounds.
-/

namespace Mbstf.Session

open Mbstf.Binary64

/-! ## Assignment -/

/-- A value too large for a double, or too small for a normal one. -/
def outsideDouble (value : ℚ) : Bool :=
  2 ^ 1024 ≤ |value| ∨ (value ≠ 0 ∧ |value| < 1 / 2 ^ 1022)

/-- `std::stod` as the reading of the longest prefix that is a decimal numeral, behind white
space. -/
def decimalStod (text : List Char) : Except StdException (ℚ × ℕ) :=
  let blanks := text.takeWhile isSpace
  match scanNumeral (text.drop blanks.length) with
  | none => .error ⟨.invalidArgument, "stod"⟩
  | some (value, length) =>
      if outsideDouble value then .error ⟨.outOfRange, "stod"⟩
      else .ok (value, blanks.length + length)

/-- `BitRate::operator=(const std::string&)`, with the rate that is left. -/
def assign (previous : ℚ) (bitRateStr : String) : Except StdException Unit × ℚ :=
  let text := bitRateStr.toList
  if ' ' ∉ text then
    match decimalStod text with
    | .error exception => (.error exception, previous)
    | .ok (value, _) => (.ok (), value)
  else
    let num := text.takeWhile (· ≠ ' ')
    match unitsMultiplier (text.drop (num.length + 1)) with
    | .error exception => (.error exception, previous)
    | .ok multiplier =>
        match decimalStod num with
        | .error exception => (.error exception, previous)
        | .ok (value, idx) =>
            -- The rate is written before the exception.
            if idx ≠ num.length then
              (.error ⟨.invalidArgument, "Invalid bitrate value"⟩, value * multiplier)
            else (.ok (), value * multiplier)

/-! ## What should be accepted -/

/-- The units, each with its multiplier. -/
def bitRateUnits : List (String × ℚ) :=
  [("", 1), ("bps", 1), ("Kbps", 10 ^ 3), ("Mbps", 10 ^ 6), ("Gbps", 10 ^ 9), ("Tbps", 10 ^ 12)]

/-- A string is a numeral, alone or with one blank and a unit. -/
def Denotes (bitRateStr : String) (numeral : Numeral) (multiplier : ℚ) : Prop :=
  (bitRateStr.toList = numeral.text ∧ multiplier = 1) ∨
    ∃ units, (units, multiplier) ∈ bitRateUnits ∧
      bitRateStr.toList = numeral.text ++ ' ' :: units.toList

namespace Numeral

variable (numeral : Numeral)

/-- The value is beyond all doubles. -/
def TooLarge : Prop := 2 ^ 1024 ≤ |numeral.value|

/-- The value is not zero, but less than any normal double. -/
def TooSmall : Prop := numeral.value ≠ 0 ∧ |numeral.value| < 1 / 2 ^ 1022

end Numeral

/-- The string up to its first blank. -/
def numberText (bitRateStr : String) : List Char := bitRateStr.toList.takeWhile (· ≠ ' ')

/-- The string has a blank, and a unit behind it. -/
def HasUnits (bitRateStr : String) : Prop :=
  ∃ units multiplier, (units, multiplier) ∈ bitRateUnits ∧
    bitRateStr.toList = numberText bitRateStr ++ ' ' :: units.toList

/-- The numeral that `std::stod` reads, behind white space. -/
def Reads (bitRateStr : String) (numeral : Numeral) : Prop :=
  numeral.IsLongest ((numberText bitRateStr).dropWhile isSpace)

/-- Strings are accepted with their value, and turned down with the rate there was. -/
structure AssignedRightly (bitRateStr : String) : Prop where
  accepts : ∀ numeral multiplier, Denotes bitRateStr numeral multiplier → ¬ numeral.TooLarge →
    ∀ previous, assign previous bitRateStr = (.ok (), numeral.value * multiplier)
  tooLarge : ∀ numeral multiplier, Denotes bitRateStr numeral multiplier → numeral.TooLarge →
    ∀ previous, ∃ exception, assign previous bitRateStr = (.error exception, previous) ∧
      exception.kind = .outOfRange
  rejects : (∀ numeral multiplier, ¬ Denotes bitRateStr numeral multiplier) →
    ∀ previous, ∃ exception, assign previous bitRateStr = (.error exception, previous) ∧
      (exception.kind = .invalidArgument ∨
        exception.kind = .outOfRange ∧ ∃ numeral, Reads bitRateStr numeral ∧ numeral.TooLarge)

/-! ## The characters of a numeral -/

/-- A character that a numeral can have. -/
def IsNumeric (character : Char) : Prop :=
  character.isDigit = true ∨ character ∈ ['+', '-', '.', 'e', 'E']

theorem isNumeric_of_sign {sign : Sign} {character : Char} (hmem : character ∈ sign.text) :
    IsNumeric character := by
  cases sign with
  | absent => cases hmem
  | plus =>
      obtain rfl := List.mem_singleton.mp hmem
      exact .inr (by simp)
  | minus =>
      obtain rfl := List.mem_singleton.mp hmem
      exact .inr (by simp)

theorem Numeral.isNumeric {numeral : Numeral} {character : Char}
    (hmem : character ∈ numeral.text) : IsNumeric character := by
  rw [Numeral.text, List.mem_append, List.mem_append, List.mem_append] at hmem
  rcases hmem with hsign | hwhole | hfraction | hexponent
  · exact isNumeric_of_sign hsign
  · exact .inl (numeral.whole_isDigit character hwhole)
  · have hdigits := numeral.fraction_isDigit
    cases hpoint : numeral.fraction with
    | none =>
        rw [hpoint] at hfraction
        cases hfraction
    | some digits =>
        rw [hpoint] at hfraction hdigits
        cases hfraction with
        | head => exact .inr (by simp)
        | tail _ hdigit => exact .inl (hdigits character hdigit)
  · cases hpower : numeral.exponent with
    | none =>
        rw [hpower] at hexponent
        cases hexponent
    | some exponent =>
        rw [hpower, exponentText, Exponent.text, List.mem_cons, List.mem_append] at hexponent
        rcases hexponent with rfl | hsign | hdigit
        · rcases exponent.mark_eq with hmark | hmark
          · exact .inr (by simp [hmark])
          · exact .inr (by simp [hmark])
        · exact isNumeric_of_sign hsign
        · exact .inl (exponent.digits_isDigit character hdigit)

theorem IsNumeric.not_isSpace {character : Char} (hnumeric : IsNumeric character) :
    isSpace character = false := by
  rcases hnumeric with hdigit | hother
  · exact (isDigit_spec hdigit).1
  · simp only [List.mem_cons, List.not_mem_nil, or_false] at hother
    rcases hother with rfl | rfl | rfl | rfl | rfl
    all_goals decide

/-- There is no white space in a numeral. -/
theorem Numeral.not_isSpace {numeral : Numeral} {character : Char}
    (hmem : character ∈ numeral.text) : isSpace character = false :=
  (Numeral.isNumeric hmem).not_isSpace

theorem Numeral.not_blank (numeral : Numeral) : ' ' ∉ numeral.text :=
  fun hmem => absurd (numeral.not_isSpace hmem) (by decide)

theorem Numeral.dropWhile_isSpace (numeral : Numeral) :
    numeral.text.dropWhile isSpace = numeral.text := by
  rw [List.dropWhile_eq_self_iff]
  intro hpos
  exact ne_true_of_eq_false (numeral.not_isSpace (List.getElem_mem hpos))

theorem Numeral.takeWhile_isSpace (numeral : Numeral) :
    numeral.text.takeWhile isSpace = [] := by
  rw [List.takeWhile_eq_nil_iff]
  intro hpos
  exact ne_true_of_eq_false (numeral.not_isSpace (List.getElem_mem hpos))

/-- The longest numeral of a text is one text, with one value. -/
theorem Numeral.IsLongest.unique {left right : Numeral} {text : List Char}
    (hleft : left.IsLongest text) (hright : right.IsLongest text) :
    left.text = right.text ∧ left.value = right.value := by
  have hscan := (scanNumeral_of_isLongest hleft).symm.trans (scanNumeral_of_isLongest hright)
  obtain ⟨hvalue, hlength⟩ := Prod.mk.inj (Option.some.inj hscan)
  have hshared := List.prefix_of_prefix_length_le hleft.1 hright.1 hlength.le
  exact ⟨hshared.eq_of_length hlength, hvalue⟩

/-! ## What `std::stod` does -/

theorem outsideDouble_iff (numeral : Numeral) :
    outsideDouble numeral.value = true ↔ numeral.TooLarge ∨ numeral.TooSmall := by
  rw [outsideDouble, decide_eq_true_eq]
  rfl

theorem Numeral.TooLarge.not_tooSmall {numeral : Numeral} (hlarge : numeral.TooLarge) :
    ¬ numeral.TooSmall := by
  rintro ⟨-, hsmall⟩
  have hone : (1 : ℚ) / 2 ^ 1022 ≤ 2 ^ 1024 := by
    calc (1 : ℚ) / 2 ^ 1022 ≤ 1 := div_le_one_of_le₀ (one_le_pow₀ one_le_two) (by positivity)
      _ ≤ 2 ^ 1024 := one_le_pow₀ one_le_two
  exact absurd (hone.trans hlarge) (not_le.mpr hsmall)

theorem decimalStod_of_not_numeral {text : List Char}
    (hnone : ∀ numeral : Numeral, ¬ numeral.IsLongest (text.dropWhile isSpace)) :
    decimalStod text = .error ⟨.invalidArgument, "stod"⟩ := by
  rw [decimalStod, drop_length_takeWhile]
  cases hscan : scanNumeral (text.dropWhile isSpace) with
  | none => rfl
  | some read =>
      obtain ⟨numeral, hlongest, -⟩ := exists_isLongest_of_scanNumeral hscan
      exact absurd hlongest (hnone numeral)

theorem decimalStod_of_isLongest {text : List Char} {numeral : Numeral}
    (hlongest : numeral.IsLongest (text.dropWhile isSpace)) :
    decimalStod text = if outsideDouble numeral.value then .error ⟨.outOfRange, "stod"⟩
      else .ok (numeral.value, (text.takeWhile isSpace).length + numeral.text.length) := by
  rw [decimalStod, drop_length_takeWhile, scanNumeral_of_isLongest hlongest]

/-! ## Strings with a number that decides -/

theorem unitsMultiplier_of_mem {units : String} {multiplier : ℚ}
    (hunits : (units, multiplier) ∈ bitRateUnits) :
    unitsMultiplier units.toList = .ok multiplier := by
  simp only [bitRateUnits, List.mem_cons, Prod.mk.injEq, List.not_mem_nil, or_false] at hunits
  rcases hunits with ⟨rfl, rfl⟩ | ⟨rfl, rfl⟩ | ⟨rfl, rfl⟩ | ⟨rfl, rfl⟩ | ⟨rfl, rfl⟩ | ⟨rfl, rfl⟩
  · rfl
  · rfl
  · exact congrArg Except.ok (by norm_num : (1000 : ℚ) = 10 ^ 3)
  · exact congrArg Except.ok (by norm_num : (1000000 : ℚ) = 10 ^ 6)
  · exact congrArg Except.ok (by norm_num : (1000000000 : ℚ) = 10 ^ 9)
  · exact congrArg Except.ok (by norm_num : (1000000000000 : ℚ) = 10 ^ 12)

theorem unitsMultiplier_error {text : List Char} {exception : StdException}
    (hunits : unitsMultiplier text = .error exception) : exception.kind = .invalidArgument := by
  unfold unitsMultiplier at hunits
  repeat' split at hunits
  all_goals cases hunits
  rfl

theorem exists_units_of_unitsMultiplier {text : List Char} {multiplier : ℚ}
    (hunits : unitsMultiplier text = .ok multiplier) :
    ∃ units, (units, multiplier) ∈ bitRateUnits ∧ text = units.toList := by
  unfold unitsMultiplier at hunits
  split at hunits
  case isTrue htext =>
    obtain rfl := Except.ok.inj hunits
    exact ⟨"Tbps", by norm_num [bitRateUnits], htext⟩
  split at hunits
  case isTrue htext =>
    obtain rfl := Except.ok.inj hunits
    exact ⟨"Gbps", by norm_num [bitRateUnits], htext⟩
  split at hunits
  case isTrue htext =>
    obtain rfl := Except.ok.inj hunits
    exact ⟨"Mbps", by norm_num [bitRateUnits], htext⟩
  split at hunits
  case isTrue htext =>
    obtain rfl := Except.ok.inj hunits
    exact ⟨"Kbps", by norm_num [bitRateUnits], htext⟩
  split at hunits
  case isTrue htext =>
    obtain rfl := Except.ok.inj hunits
    rcases htext with htext | htext
    · exact ⟨"bps", by norm_num [bitRateUnits], htext⟩
    · exact ⟨"", by norm_num [bitRateUnits], htext⟩
  cases hunits

/-- The number of a string decides, with a multiplier, whether the string is accepted. -/
structure Decides (bitRateStr : String) (multiplier : ℚ) : Prop where
  denotes_iff : ∀ numeral other, Denotes bitRateStr numeral other ↔
    numberText bitRateStr = numeral.text ∧ other = multiplier
  throws : ∀ exception previous, decimalStod (numberText bitRateStr) = .error exception →
    assign previous bitRateStr = (.error exception, previous)
  writes : ∀ value idx previous, decimalStod (numberText bitRateStr) = .ok (value, idx) →
    (assign previous bitRateStr).2 = value * multiplier ∧
      (idx = (numberText bitRateStr).length → (assign previous bitRateStr).1 = .ok ())

theorem not_blank_numberText (bitRateStr : String) : ' ' ∉ numberText bitRateStr := by
  intro hmem
  have hkept := List.mem_takeWhile_imp hmem
  simp at hkept

theorem numberText_of_not_blank {bitRateStr : String} (hblank : ' ' ∉ bitRateStr.toList) :
    numberText bitRateStr = bitRateStr.toList := by
  rw [numberText, List.takeWhile_eq_self_iff]
  intro character hmem
  exact decide_eq_true (fun heq => hblank (heq ▸ hmem))

theorem decides_of_not_blank {bitRateStr : String} (hblank : ' ' ∉ bitRateStr.toList) :
    Decides bitRateStr 1 := by
  have hnumber := numberText_of_not_blank hblank
  refine ⟨?_, ?_, ?_⟩
  · intro numeral other
    rw [hnumber]
    constructor
    · rintro (hdenotes | ⟨units, -, htext⟩)
      · exact hdenotes
      · rw [htext] at hblank
        exact absurd (List.mem_append_right _ List.mem_cons_self) hblank
    · exact Or.inl
  · intro exception previous hstod
    rw [hnumber] at hstod
    rw [assign]
    dsimp only
    rw [if_pos hblank, hstod]
  · intro value idx previous hstod
    rw [hnumber] at hstod
    rw [assign]
    dsimp only
    rw [if_pos hblank, hstod, mul_one]
    exact ⟨rfl, fun _ => rfl⟩

/-- What stands behind the first blank. -/
theorem toList_eq_of_blank {bitRateStr : String} (hblank : ' ' ∈ bitRateStr.toList) :
    bitRateStr.toList = numberText bitRateStr ++
      ' ' :: bitRateStr.toList.drop ((numberText bitRateStr).length + 1) := by
  rw [numberText, ← List.drop_drop, drop_length_takeWhile]
  have hsplit := List.takeWhile_append_dropWhile (p := (decide <| · ≠ ' '))
    (l := bitRateStr.toList)
  cases hdrop : bitRateStr.toList.dropWhile (· ≠ ' ') with
  | nil =>
      rw [List.dropWhile_eq_nil_iff] at hdrop
      exact absurd (hdrop ' ' hblank) (by decide)
  | cons first rest =>
      have hfirst : first = ' ' := by
        have hnot := List.head?_dropWhile_not (decide <| · ≠ ' ') bitRateStr.toList
        rw [hdrop] at hnot
        simpa using hnot
      rw [hdrop, hfirst] at hsplit
      rw [List.drop_succ_cons, List.drop_zero]
      exact hsplit.symm

theorem numberText_of_append {bitRateStr : String} {before behind : List Char}
    (hbefore : ' ' ∉ before) (htext : bitRateStr.toList = before ++ ' ' :: behind) :
    numberText bitRateStr = before ∧
      bitRateStr.toList.drop ((numberText bitRateStr).length + 1) = behind := by
  have hnumber : numberText bitRateStr = before := by
    rw [numberText, htext, StringView.takeWhile_ne_append hbefore]
  refine ⟨hnumber, ?_⟩
  rw [hnumber, htext, ← List.drop_drop, List.drop_left]
  rfl

theorem decides_of_units {bitRateStr : String} {multiplier : ℚ}
    (hblank : ' ' ∈ bitRateStr.toList)
    (hunits : unitsMultiplier (bitRateStr.toList.drop ((numberText bitRateStr).length + 1)) =
      .ok multiplier) : Decides bitRateStr multiplier := by
  refine ⟨?_, ?_, ?_⟩
  · intro numeral other
    constructor
    · rintro (⟨htext, -⟩ | ⟨units, hmem, htext⟩)
      · rw [htext] at hblank
        exact absurd hblank numeral.not_blank
      · obtain ⟨hnumber, hbehind⟩ := numberText_of_append numeral.not_blank htext
        rw [hbehind, unitsMultiplier_of_mem hmem] at hunits
        exact ⟨hnumber, Except.ok.inj hunits⟩
    · rintro ⟨hnumber, rfl⟩
      obtain ⟨units, hmem, hbehind⟩ := exists_units_of_unitsMultiplier hunits
      refine Or.inr ⟨units, hmem, ?_⟩
      rw [← hnumber, ← hbehind]
      exact toList_eq_of_blank hblank
  · intro exception previous hstod
    rw [numberText] at hunits hstod
    rw [assign, if_neg (not_not.mpr hblank)]
    dsimp only
    rw [hunits]
    dsimp only
    rw [hstod]
  · intro value idx previous hstod
    rw [numberText] at hunits hstod
    rw [assign, if_neg (not_not.mpr hblank)]
    dsimp only
    rw [hunits]
    dsimp only
    rw [hstod]
    dsimp only
    rw [← numberText]
    constructor
    · split
      · rfl
      · rfl
    · intro hidx
      rw [if_neg (not_not.mpr hidx)]

/-! ## When strings are assigned rightly -/

theorem Decides.reads {bitRateStr : String} {multiplier other : ℚ} {numeral : Numeral}
    (hdecides : Decides bitRateStr multiplier) (hdenotes : Denotes bitRateStr numeral other) :
    Reads bitRateStr numeral := by
  rw [Reads, ((hdecides.denotes_iff numeral other).mp hdenotes).1, numeral.dropWhile_isSpace]
  exact numeral.isLongest_text

section

variable {bitRateStr : String} {multiplier : ℚ} {numeral : Numeral}

/-- What a string denotes has the text and the value of what is read. -/
theorem Decides.denoted (hdecides : Decides bitRateStr multiplier)
    (hreads : Reads bitRateStr numeral) {other : Numeral} {factor : ℚ}
    (hdenotes : Denotes bitRateStr other factor) :
    numberText bitRateStr = numeral.text ∧ other.value = numeral.value ∧ factor = multiplier := by
  obtain ⟨hnumber, hfactor⟩ := (hdecides.denotes_iff other factor).mp hdenotes
  obtain ⟨htext, hvalue⟩ := (hdecides.reads hdenotes).unique hreads
  exact ⟨hnumber.trans htext, hvalue, hfactor⟩

/-- A number that is too large is turned down, whatever is behind it. -/
theorem Decides.assignedRightly_of_tooLarge (hdecides : Decides bitRateStr multiplier)
    (hreads : Reads bitRateStr numeral) (hlarge : numeral.TooLarge) :
    AssignedRightly bitRateStr := by
  have hstod : decimalStod (numberText bitRateStr) = .error ⟨.outOfRange, "stod"⟩ := by
    rw [decimalStod_of_isLongest hreads, if_pos ((outsideDouble_iff numeral).mpr (Or.inl hlarge))]
  refine ⟨?_, ?_, ?_⟩
  · intro other factor hdenotes hnotLarge
    obtain ⟨-, hvalue, -⟩ := hdecides.denoted hreads hdenotes
    rw [Numeral.TooLarge, hvalue] at hnotLarge
    exact absurd hlarge hnotLarge
  · intro other factor _ _ previous
    exact ⟨_, hdecides.throws _ previous hstod, rfl⟩
  · intro _ previous
    exact ⟨_, hdecides.throws _ previous hstod, Or.inr ⟨rfl, numeral, hreads, hlarge⟩⟩

/-- A number that is nothing but a numeral with a value that a double can have is taken. -/
theorem Decides.assignedRightly_of_whole (hdecides : Decides bitRateStr multiplier)
    (hreads : Reads bitRateStr numeral) (hnotLarge : ¬ numeral.TooLarge)
    (hwhole : numberText bitRateStr = numeral.text) (hnotSmall : ¬ numeral.TooSmall) :
    AssignedRightly bitRateStr := by
  have hinside : ¬ outsideDouble numeral.value = true := fun houtside =>
    ((outsideDouble_iff numeral).mp houtside).elim hnotLarge hnotSmall
  have hstod : decimalStod (numberText bitRateStr) =
      .ok (numeral.value, (numberText bitRateStr).length) := by
    rw [decimalStod_of_isLongest hreads, if_neg hinside, hwhole, numeral.takeWhile_isSpace,
      List.length_nil, Nat.zero_add]
  refine ⟨?_, ?_, ?_⟩
  · intro other factor hdenotes _ previous
    obtain ⟨-, hvalue, rfl⟩ := hdecides.denoted hreads hdenotes
    obtain ⟨hwritten, hresult⟩ := hdecides.writes _ _ previous hstod
    rw [hvalue]
    exact Prod.ext (hresult rfl) hwritten
  · intro other factor hdenotes hlarge
    obtain ⟨-, hvalue, -⟩ := hdecides.denoted hreads hdenotes
    rw [Numeral.TooLarge, hvalue] at hlarge
    exact absurd hlarge hnotLarge
  · intro hnot
    exact absurd ((hdecides.denotes_iff numeral multiplier).mpr ⟨hwhole, rfl⟩)
      (hnot numeral multiplier)

/-- A number that is too small is turned down, though it may be all of a numeral. -/
theorem Decides.not_assignedRightly_of_tooSmall (hdecides : Decides bitRateStr multiplier)
    (hreads : Reads bitRateStr numeral) (hsmall : numeral.TooSmall) :
    ¬ AssignedRightly bitRateStr := by
  intro hright
  have hnotLarge : ¬ numeral.TooLarge := fun hlarge => hlarge.not_tooSmall hsmall
  have hstod : decimalStod (numberText bitRateStr) = .error ⟨.outOfRange, "stod"⟩ := by
    rw [decimalStod_of_isLongest hreads, if_pos ((outsideDouble_iff numeral).mpr (Or.inr hsmall))]
  have hassign := hdecides.throws _ 0 hstod
  by_cases hwhole : numberText bitRateStr = numeral.text
  · have hdenotes := (hdecides.denotes_iff numeral multiplier).mpr ⟨hwhole, rfl⟩
    rw [hright.accepts numeral multiplier hdenotes hnotLarge 0] at hassign
    cases hassign
  · have hnot : ∀ other factor, ¬ Denotes bitRateStr other factor := fun other factor hdenotes =>
      hwhole (hdecides.denoted hreads hdenotes).1
    obtain ⟨exception, hthrown, hkind⟩ := hright.rejects hnot 0
    rw [hassign] at hthrown
    obtain rfl := Except.error.inj (Prod.mk.inj hthrown).1
    rcases hkind with hinvalid | ⟨-, other, hother, hlarge⟩
    · cases hinvalid
    · rw [Numeral.TooLarge, (hother.unique hreads).2] at hlarge
      exact hnotLarge hlarge

/-- A number with something else around its numeral leaves a rate that was not there. -/
theorem Decides.not_assignedRightly_of_not_whole (hdecides : Decides bitRateStr multiplier)
    (hreads : Reads bitRateStr numeral) (hnotLarge : ¬ numeral.TooLarge)
    (hnotSmall : ¬ numeral.TooSmall) (hnotWhole : numberText bitRateStr ≠ numeral.text) :
    ¬ AssignedRightly bitRateStr := by
  intro hright
  have hinside : ¬ outsideDouble numeral.value = true := fun houtside =>
    ((outsideDouble_iff numeral).mp houtside).elim hnotLarge hnotSmall
  have hstod := decimalStod_of_isLongest hreads
  rw [if_neg hinside] at hstod
  have hnot : ∀ other factor, ¬ Denotes bitRateStr other factor := fun other factor hdenotes =>
    hnotWhole (hdecides.denoted hreads hdenotes).1
  obtain ⟨exception, hthrown, -⟩ := hright.rejects hnot (numeral.value * multiplier + 1)
  have hwritten := (hdecides.writes _ _ (numeral.value * multiplier + 1) hstod).1
  rw [hthrown] at hwritten
  linarith

/-- The numeral that is read has to be the whole number, with a value that a double can have,
or beyond all doubles. -/
theorem Decides.right_iff (hdecides : Decides bitRateStr multiplier) :
    AssignedRightly bitRateStr ↔ ∀ numeral, Reads bitRateStr numeral → ¬ numeral.TooLarge →
      numberText bitRateStr = numeral.text ∧ ¬ numeral.TooSmall := by
  by_cases hread : ∃ numeral, Reads bitRateStr numeral
  swap
  · -- Nothing is read, and the string is turned down.
    rw [not_exists] at hread
    have hstod := decimalStod_of_not_numeral hread
    refine iff_of_true ⟨?_, ?_, ?_⟩ (fun numeral hreads => absurd hreads (hread numeral))
    · intro numeral other hdenotes
      exact absurd (hdecides.reads hdenotes) (hread numeral)
    · intro numeral other hdenotes
      exact absurd (hdecides.reads hdenotes) (hread numeral)
    · intro _ previous
      exact ⟨_, hdecides.throws _ previous hstod, Or.inl rfl⟩
  obtain ⟨numeral, hreads⟩ := hread
  constructor
  · intro hright other hother hnotLarge
    have hnotSmall : ¬ other.TooSmall := fun hsmall =>
      hdecides.not_assignedRightly_of_tooSmall hother hsmall hright
    refine ⟨?_, hnotSmall⟩
    by_contra hnotWhole
    exact hdecides.not_assignedRightly_of_not_whole hother hnotLarge hnotSmall hnotWhole hright
  · intro hall
    by_cases hlarge : numeral.TooLarge
    · exact hdecides.assignedRightly_of_tooLarge hreads hlarge
    · obtain ⟨hwhole, hnotSmall⟩ := hall numeral hreads hlarge
      exact hdecides.assignedRightly_of_whole hreads hlarge hwhole hnotSmall

end

/-- A string is assigned rightly just when it has a blank and no unit behind it, or when the
numeral that is read of its number, if it is not too large, is the whole number and not too
small. -/
theorem assignedRightly_iff (bitRateStr : String) :
    AssignedRightly bitRateStr ↔
      (' ' ∈ bitRateStr.toList ∧ ¬ HasUnits bitRateStr) ∨
        ∀ numeral, Reads bitRateStr numeral → ¬ numeral.TooLarge →
          numberText bitRateStr = numeral.text ∧ ¬ numeral.TooSmall := by
  by_cases hblank : ' ' ∈ bitRateStr.toList
  swap
  · rw [(decides_of_not_blank hblank).right_iff]
    exact (or_iff_right fun hleft => hblank hleft.1).symm
  cases hunits : unitsMultiplier
      (bitRateStr.toList.drop ((numberText bitRateStr).length + 1)) with
  | ok multiplier =>
      obtain ⟨units, hmem, hbehind⟩ := exists_units_of_unitsMultiplier hunits
      have hhas : HasUnits bitRateStr :=
        ⟨units, multiplier, hmem, hbehind ▸ toList_eq_of_blank hblank⟩
      rw [(decides_of_units hblank hunits).right_iff]
      exact (or_iff_right fun hleft => hleft.2 hhas).symm
  | error exception =>
      have hunknown : ∀ {units : String} {multiplier : ℚ}, (units, multiplier) ∈ bitRateUnits →
          bitRateStr.toList.drop ((numberText bitRateStr).length + 1) ≠ units.toList := by
        intro units multiplier hmem hbehind
        rw [hbehind, unitsMultiplier_of_mem hmem] at hunits
        cases hunits
      have hno : ¬ HasUnits bitRateStr := by
        rintro ⟨units, multiplier, hmem, htext⟩
        exact hunknown hmem (numberText_of_append (not_blank_numberText bitRateStr) htext).2
      have hnot : ∀ numeral multiplier, ¬ Denotes bitRateStr numeral multiplier := by
        rintro numeral multiplier (⟨htext, -⟩ | ⟨units, hmem, htext⟩)
        · rw [htext] at hblank
          exact numeral.not_blank hblank
        · exact hunknown hmem (numberText_of_append numeral.not_blank htext).2
      refine iff_of_true ⟨?_, ?_, ?_⟩ (Or.inl ⟨hblank, hno⟩)
      · exact fun numeral multiplier hdenotes => absurd hdenotes (hnot numeral multiplier)
      · exact fun numeral multiplier hdenotes => absurd hdenotes (hnot numeral multiplier)
      · intro _ previous
        rw [numberText] at hunits
        refine ⟨exception, ?_, Or.inl (unitsMultiplier_error hunits)⟩
        rw [assign, if_neg (not_not.mpr hblank)]
        dsimp only
        rw [hunits]

/-! ## The rate that is stored -/

/-- No letter of a word is in a numeral. -/
theorem IsNumeric.toLower_ne {character : Char} (hnumeric : IsNumeric character) :
    character.toLower ≠ 'i' ∧ character.toLower ≠ 'n' := by
  rcases hnumeric with hdigit | hother
  · have hsame : character.toLower = character := by
      rw [Char.isDigit, Bool.and_eq_true, decide_eq_true_eq, decide_eq_true_eq] at hdigit
      rw [Char.toLower, dif_neg]
      intro hupper
      have hleast : (65 : ℕ) ≤ character.val.toNat := hupper.1
      have hmost : character.val.toNat ≤ 57 := hdigit.2
      omega
    rw [hsame]
    constructor
    · rintro rfl
      exact absurd hdigit (by decide)
    · rintro rfl
      exact absurd hdigit (by decide)
  · simp only [List.mem_cons, List.not_mem_nil, or_false] at hother
    rcases hother with rfl | rfl | rfl | rfl | rfl
    all_goals decide

section

variable {text : List Char} (hnumeric : ∀ character ∈ text, IsNumeric character)

include hnumeric

theorem scanHexadecimal_of_numeric : scanHexadecimal text = none := by
  unfold scanHexadecimal
  split
  case h_1 mark rest =>
      have hmark := hnumeric mark (List.mem_cons_of_mem _ List.mem_cons_self)
      have hnot : ¬ (mark = 'x' ∨ mark = 'X') := by
        rintro (rfl | rfl)
        · exact absurd hmark (by simp [IsNumeric])
        · exact absurd hmark (by simp [IsNumeric])
      exact if_neg fun hboth => hnot hboth.1
  case h_2 => rfl

theorem beginsWith_of_numeric {first : Char} (hfirst : first = 'i' ∨ first = 'n')
    (rest : List Char) : beginsWith (first :: rest) text = false := by
  rw [beginsWith, decide_eq_false_iff_not]
  cases text with
  | nil => simp
  | cons character behind =>
      obtain ⟨hi, hn⟩ := (hnumeric character List.mem_cons_self).toLower_ne
      intro heq
      obtain ⟨hlower, -⟩ := List.cons.inj heq
      rcases hfirst with rfl | rfl
      · exact hi hlower
      · exact hn hlower

theorem scanWord_of_numeric (negative : Bool) : scanWord negative text = none := by
  have hinfinity : beginsWith "infinity".toList text = false :=
    beginsWith_of_numeric hnumeric (.inl rfl) _
  have hinf : beginsWith "inf".toList text = false :=
    beginsWith_of_numeric hnumeric (.inl rfl) _
  have hnan : beginsWith "nan".toList text = false :=
    beginsWith_of_numeric hnumeric (.inr rfl) _
  rw [scanWord, if_neg (ne_true_of_eq_false hinfinity), if_neg (ne_true_of_eq_false hinf),
    if_neg (ne_true_of_eq_false hnan)]

end

/-- Of a decimal numeral `strtod` finds all, and its value. -/
theorem scanNumber_numeral (numeral : Numeral) :
    scanNumber numeral.text = some (.finite numeral.value, numeral.text.length) := by
  have hsign : scanSign numeral.text = (numeral.sign.value, numeral.sign.text.length,
      numeral.whole ++ (fractionText numeral.fraction ++ exponentText numeral.exponent)) :=
    scanSign_text_append numeral.sign (numeral.head_unsigned _)
  have hnumeric : ∀ character ∈ numeral.whole ++
      (fractionText numeral.fraction ++ exponentText numeral.exponent), IsNumeric character :=
    fun character hmem => Numeral.isNumeric (List.mem_append_right _ hmem)
  rw [scanNumber, hsign]
  dsimp only
  rw [scanHexadecimal_of_numeric hnumeric]
  dsimp only
  rw [scanWord_of_numeric hnumeric]
  dsimp only
  rw [scanNumeral_of_isLongest numeral.isLongest_text]
  rfl

/-- A string that denotes a rate within the range of the doubles has this rate. -/
theorem bitRate_of_denotes {bitRateStr : String} {numeral : Numeral} {multiplier : ℚ}
    (hdenotes : Denotes bitRateStr numeral multiplier)
    (hinside : outOfRange numeral.value = false) :
    ∃ stored, bitRate bitRateStr = .ok ⟨.finite (numeral.value * multiplier), stored⟩ := by
  have hstod : stod numeral.text = .ok ⟨.finite numeral.value, numeral.text.length⟩ := by
    rw [stod, numeral.takeWhile_isSpace, List.length_nil, List.drop_zero, scanNumber_numeral]
    simp [hinside]
  rcases hdenotes with ⟨htext, rfl⟩ | ⟨units, hmem, htext⟩
  · refine ⟨(Datum.finite numeral.value).round, ?_⟩
    rw [bitRate, htext, if_pos numeral.not_blank, hstod, mul_one]
    rfl
  · obtain ⟨hnumber, hbehind⟩ := numberText_of_append numeral.not_blank htext
    have hblank : ' ' ∈ bitRateStr.toList := by simp [htext]
    refine ⟨((Datum.finite numeral.value).round.mul multiplier).round, ?_⟩
    rw [bitRate, if_neg (not_not.mpr hblank), ← numberText]
    dsimp only
    rw [hbehind, unitsMultiplier_of_mem hmem, hnumber, hstod]
    change (if _ ≠ _ then _ else _ : Except StdException BitRate) = _
    rw [if_neg (not_not.mpr rfl)]
    rfl

/-! ## Two strings that are not -/

/-- Text behind a numeral, when the numeral has a value that a double can have. -/
theorem Decides.not_assignedRightly_of_scan {bitRateStr : String} {multiplier value : ℚ}
    {length : ℕ} (hdecides : Decides bitRateStr multiplier)
    (hscan : scanNumeral ((numberText bitRateStr).dropWhile isSpace) = some (value, length))
    (hinside : outsideDouble value = false) (hlength : length ≠ (numberText bitRateStr).length) :
    ¬ AssignedRightly bitRateStr := by
  obtain ⟨numeral, hreads, rfl, rfl⟩ := exists_isLongest_of_scanNumeral hscan
  have hnot : ¬ (numeral.TooLarge ∨ numeral.TooSmall) := by
    rw [← outsideDouble_iff, hinside]
    exact Bool.false_ne_true
  obtain ⟨hnotLarge, hnotSmall⟩ := not_or.mp hnot
  refine hdecides.not_assignedRightly_of_not_whole hreads hnotLarge hnotSmall fun hwhole => ?_
  exact hlength (congrArg List.length hwhole).symm

theorem outsideDouble_ten : outsideDouble 10 = false := by
  have hlarge : (10 : ℚ) < 2 ^ 1024 := by
    calc (10 : ℚ) < 2 ^ 4 := by norm_num
      _ ≤ 2 ^ 1024 := pow_le_pow_right₀ one_le_two (by norm_num)
  have hsmall : (1 : ℚ) / 2 ^ 1022 ≤ 10 := by
    calc (1 : ℚ) / 2 ^ 1022 ≤ 1 := div_le_one_of_le₀ (one_le_pow₀ one_le_two) (by positivity)
      _ ≤ 10 := by norm_num
  have habs : |(10 : ℚ)| = 10 := abs_of_pos (by norm_num)
  rw [outsideDouble, habs, decide_eq_false_iff_not, not_or, not_and]
  exact ⟨not_le.mpr hlarge, fun _ => not_lt.mpr hsmall⟩

theorem scanNumeral_ten {rest : List Char} (hscan : scanNumeral ('1' :: '0' :: rest) =
    some (((1 : ℤ) : ℚ) * ((digitsValue ['1', '0'] : ℕ) : ℚ) * 10 ^ ((0 : ℤ) - ((0 : ℕ) : ℤ)), 2)) :
    scanNumeral ('1' :: '0' :: rest) = some (10, 2) := by
  have hten : digitsValue ['1', '0'] = 10 := rfl
  rw [hscan, hten]
  norm_num

theorem decimalStod_ten {rest : List Char}
    (hscan : scanNumeral ('1' :: '0' :: rest) = some (10, 2)) :
    decimalStod ('1' :: '0' :: rest) = .ok (10, 2) := by
  have hblanks : ('1' :: '0' :: rest).takeWhile isSpace = [] := rfl
  rw [decimalStod, hblanks, List.length_nil, List.drop_zero, hscan]
  dsimp only
  rw [outsideDouble_ten]
  rfl

/-- Without a blank the text behind the numeral is not looked at, and with one it is looked at
too late. -/
theorem tenMbps_not_assignedRightly :
    (assign 0 "10Mbps" = (.ok (), 10) ∧ ¬ AssignedRightly "10Mbps") ∧
      (assign 0 "10x Mbps" = (.error ⟨.invalidArgument, "Invalid bitrate value"⟩, 10000000) ∧
        ¬ AssignedRightly "10x Mbps") := by
  have hjoined : scanNumeral "10Mbps".toList = some (10, 2) := scanNumeral_ten rfl
  have hcut : scanNumeral ['1', '0', 'x'] = some (10, 2) := scanNumeral_ten rfl
  have hnotBlank : ' ' ∉ "10Mbps".toList := by decide
  have hblank : ' ' ∈ "10x Mbps".toList := by decide
  have hnumber : numberText "10x Mbps" = ['1', '0', 'x'] := rfl
  have hunits : unitsMultiplier ("10x Mbps".toList.drop ((numberText "10x Mbps").length + 1)) =
      .ok 1000000 := rfl
  have hdecides := decides_of_units hblank hunits
  refine ⟨⟨?_, ?_⟩, ?_, ?_⟩
  · have hstod : decimalStod "10Mbps".toList = .ok (10, 2) := decimalStod_ten hjoined
    rw [assign, if_pos hnotBlank, hstod]
  · exact (decides_of_not_blank hnotBlank).not_assignedRightly_of_scan hjoined outsideDouble_ten
      (by decide)
  · rw [assign, if_neg (not_not.mpr hblank)]
    dsimp only
    rw [← numberText, hunits]
    dsimp only
    rw [hnumber, decimalStod_ten hcut]
    norm_num
  · exact hdecides.not_assignedRightly_of_scan hcut outsideDouble_ten (by decide)

end Mbstf.Session
