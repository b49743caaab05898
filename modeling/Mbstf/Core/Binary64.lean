import Mathlib

/-!
# Doubles

A double is a rational with 53 binary digits, or fewer at the lower end of the range, or
infinite, or not a number.  An operation gives the nearest double to its exact result, and the
even one when two are as near.  The rounding does not cross a power of two, and that of a
quotient by a whole number does not cross an integer.
-/

namespace Mbstf.Binary64

/-- The nearest integer; of two that are as near, the even one. -/
def roundHalfEven (value : ℚ) : ℤ :=
  if value - ⌊value⌋ < 1 / 2 then ⌊value⌋
  else if 1 / 2 < value - ⌊value⌋ then ⌊value⌋ + 1
  else if ⌊value⌋ % 2 = 0 then ⌊value⌋
  else ⌊value⌋ + 1

/-- The exponent of the last binary digit that a double of this size has. -/
def lastPlace (value : ℚ) : ℤ := max (Int.log 2 |value| - 52) (-1074)

/-- The distance from one double of this size to the next. -/
def spacing (value : ℚ) : ℚ := 2 ^ lastPlace value

/-- The nearest rational with the digits of a double. -/
def nearest (value : ℚ) : ℚ := roundHalfEven (value / spacing value) * spacing value

/-- A number that a floating-point type can hold: a rational, an infinity, or none. -/
inductive Datum where
  | finite (value : ℚ)
  | infinite (negative : Bool)
  | nan
  deriving DecidableEq

namespace Datum

/-- The nearest double.  The two zeros are one here, and beyond the largest double it is an
infinity. -/
def round : Datum → Datum
  | .finite value =>
      if 2 ^ 1024 ≤ |nearest value| then .infinite (value < 0) else .finite (nearest value)
  | .infinite negative => .infinite negative
  | .nan => .nan

/-- The product with a positive rational. -/
def mul (datum : Datum) (factor : ℚ) : Datum :=
  match datum with
  | .finite value => .finite (value * factor)
  | .infinite negative => .infinite negative
  | .nan => .nan

/-- The quotient by a positive rational. -/
def div (datum : Datum) (divisor : ℚ) : Datum :=
  match datum with
  | .finite value => .finite (value / divisor)
  | .infinite negative => .infinite negative
  | .nan => .nan

end Datum

/-! ## Rounding to integers -/

theorem abs_roundHalfEven_sub_le (value : ℚ) : |(roundHalfEven value : ℚ) - value| ≤ 1 / 2 := by
  have hfloor := Int.floor_le value
  have hnext := Int.lt_floor_add_one value
  rw [abs_le]
  unfold roundHalfEven
  split
  · constructor <;> linarith
  · split
    · push_cast
      constructor <;> linarith
    · split
      · constructor <;> linarith
      · push_cast
        constructor <;> linarith

theorem roundHalfEven_le {value : ℚ} {bound : ℤ} (hle : value ≤ bound) :
    roundHalfEven value ≤ bound := by
  have hnear := (abs_le.mp (abs_roundHalfEven_sub_le value)).2
  have hlt : (roundHalfEven value : ℚ) < bound + 1 := by linarith
  exact Int.lt_add_one_iff.mp (by exact_mod_cast hlt)

theorem le_roundHalfEven {value : ℚ} {bound : ℤ} (hle : (bound : ℚ) ≤ value) :
    bound ≤ roundHalfEven value := by
  have hnear := (abs_le.mp (abs_roundHalfEven_sub_le value)).1
  have hlt : (bound : ℚ) < roundHalfEven value + 1 := by linarith
  exact Int.lt_add_one_iff.mp (by exact_mod_cast hlt)

theorem roundHalfEven_lt {value : ℚ} {bound : ℤ} (hlt : value < bound - 1 / 2) :
    roundHalfEven value < bound := by
  have hnear := (abs_le.mp (abs_roundHalfEven_sub_le value)).2
  have hbelow : (roundHalfEven value : ℚ) < bound := by linarith
  exact_mod_cast hbelow

/-! ## Rounding to doubles -/

section

variable {value bound : ℚ}

theorem spacing_pos (value : ℚ) : 0 < spacing value := zpow_pos two_pos _

/-- A whole number is a multiple of every power of two below one. -/
theorem exists_eq_mul_zpow {place : ℤ} (hplace : place ≤ 0) (whole : ℤ) :
    ∃ digits : ℤ, (whole : ℚ) = digits * 2 ^ place := by
  refine ⟨whole * 2 ^ (-place).toNat, ?_⟩
  have hpower : (2 : ℚ) ^ (-place).toNat * 2 ^ place = 1 := by
    rw [← zpow_natCast, Int.toNat_of_nonneg (by omega), ← zpow_add₀ two_ne_zero,
      neg_add_cancel, zpow_zero]
  push_cast
  rw [mul_assoc, hpower, mul_one]

/-- A bound that has the digits of a double of this size is kept. -/
theorem nearest_le {digits : ℤ} (hbound : bound = digits * spacing value) (hle : value ≤ bound) :
    nearest value ≤ bound := by
  rw [hbound, nearest, mul_le_mul_iff_left₀ (spacing_pos value)]
  have hquotient : value / spacing value ≤ digits := by
    rw [div_le_iff₀ (spacing_pos value), ← hbound]
    exact hle
  exact_mod_cast roundHalfEven_le hquotient

theorem le_nearest {digits : ℤ} (hbound : bound = digits * spacing value) (hle : bound ≤ value) :
    bound ≤ nearest value := by
  rw [hbound, nearest, mul_le_mul_iff_left₀ (spacing_pos value)]
  have hquotient : (digits : ℚ) ≤ value / spacing value := by
    rw [le_div_iff₀ (spacing_pos value), ← hbound]
    exact hle
  exact_mod_cast le_roundHalfEven hquotient

/-- What is farther away than half a place does not round up to it. -/
theorem nearest_lt {digits : ℤ} (hbound : bound = digits * spacing value)
    (hlt : value < bound - spacing value / 2) : nearest value < bound := by
  rw [hbound, nearest, mul_lt_mul_iff_left₀ (spacing_pos value)]
  have hquotient : value / spacing value < digits - 1 / 2 := by
    rw [div_lt_iff₀ (spacing_pos value), sub_mul, ← hbound]
    linarith
  exact_mod_cast roundHalfEven_lt hquotient

@[simp]
theorem nearest_zero : nearest 0 = 0 := by
  have hzero : roundHalfEven 0 = 0 := by simp [roundHalfEven]
  rw [nearest, zero_div, hzero, Int.cast_zero, zero_mul]

theorem Datum.round_zero : (Datum.finite 0).round = .finite 0 := by
  rw [Datum.round, nearest_zero, abs_zero, if_neg (not_le.mpr (by positivity))]

/-- Only a rational is rounded to one. -/
theorem Datum.exists_finite_of_round {datum : Datum} (hround : datum.round = .finite value) :
    ∃ exact, datum = .finite exact ∧ nearest exact = value := by
  cases datum with
  | finite exact =>
      rw [Datum.round] at hround
      split at hround
      · cases hround
      · exact ⟨exact, rfl, Datum.finite.inj hround⟩
  | infinite negative => cases hround
  | nan => cases hround

theorem lastPlace_of_le (value : ℚ) (place : ℤ) (hplace : -1022 ≤ place)
    (hle : (2 : ℚ) ^ place ≤ value) : lastPlace value = Int.log 2 value - 52 := by
  have hpos : 0 < value := (zpow_pos two_pos place).trans_le hle
  have hlog : place ≤ Int.log 2 value := by
    rw [← Int.zpow_le_iff_le_log one_lt_two hpos]
    exact_mod_cast hle
  rw [lastPlace, abs_of_pos hpos, max_eq_left (by omega)]

theorem lastPlace_le_of_lt (place : ℤ) (hplace : -1021 ≤ place) (hpos : 0 < value)
    (hlt : value < 2 ^ place) : lastPlace value ≤ place - 53 := by
  have hlog : Int.log 2 value < place := by
    rw [← Int.lt_zpow_iff_log_lt one_lt_two hpos]
    exact_mod_cast hlt
  rw [lastPlace, abs_of_pos hpos]
  omega

/-- A power of two is a multiple of every smaller one. -/
theorem exists_zpow_eq_mul_zpow (place other : ℤ) (hle : place ≤ other) :
    ∃ digits : ℤ, (2 : ℚ) ^ other = digits * 2 ^ place := by
  refine ⟨2 ^ (other - place).toNat, ?_⟩
  push_cast
  rw [← zpow_natCast, Int.toNat_of_nonneg (by omega), ← zpow_add₀ two_ne_zero, sub_add_cancel]

/-- Nothing is rounded up beyond a power of two. -/
theorem nearest_le_zpow (value : ℚ) (place : ℤ) (hplace : -1021 ≤ place) (hlt : value < 2 ^ place) :
    nearest value ≤ 2 ^ place := by
  by_cases hpos : 0 < value
  · have hlast := lastPlace_le_of_lt place hplace hpos hlt
    obtain ⟨digits, hdigits⟩ := exists_zpow_eq_mul_zpow (lastPlace value) place
      (by omega)
    exact nearest_le hdigits hlt.le
  · have hnone : (0 : ℚ) = (0 : ℤ) * spacing value := by simp
    have hzero : nearest value ≤ 0 := nearest_le hnone (not_lt.mp hpos)
    exact hzero.trans (zpow_pos two_pos place).le

/-- Nothing is rounded down below a power of two. -/
theorem zpow_le_nearest (value : ℚ) (place : ℤ) (hplace : -1022 ≤ place) (hle : 2 ^ place ≤ value) :
    2 ^ place ≤ nearest value := by
  have hpos : 0 < value := (zpow_pos two_pos place).trans_le hle
  have hlog : place ≤ Int.log 2 value := by
    rw [← Int.zpow_le_iff_le_log one_lt_two hpos]
    exact_mod_cast hle
  have hlast := lastPlace_of_le value place hplace hle
  obtain ⟨digits, hdigits⟩ := exists_zpow_eq_mul_zpow (lastPlace value)
    (Int.log 2 value) (by omega)
  calc (2 : ℚ) ^ place ≤ 2 ^ Int.log 2 value := zpow_le_zpow_right₀ one_le_two hlog
    _ ≤ nearest value := le_nearest hdigits (by exact_mod_cast Int.zpow_log_le_self one_lt_two hpos)

/-- A rational with the digits of a double. -/
def IsDouble (value : ℚ) : Prop :=
  ∃ digits place : ℤ, |digits| < 2 ^ 53 ∧ -1074 ≤ place ∧ value = digits * 2 ^ place

theorem abs_le_mul_spacing (value : ℚ) : |value| ≤ 2 ^ 53 * spacing value := by
  have hlog : |value| < 2 ^ (Int.log 2 |value| + 1) := by
    exact_mod_cast Int.lt_zpow_succ_log_self one_lt_two |value|
  have hplace : Int.log 2 |value| + 1 ≤ 53 + lastPlace value := by
    have hmax := le_max_left (Int.log 2 |value| - 52) (-1074)
    rw [lastPlace]
    omega
  calc |value| ≤ 2 ^ (Int.log 2 |value| + 1) := hlog.le
    _ ≤ 2 ^ (53 + lastPlace value) := zpow_le_zpow_right₀ one_le_two hplace
    _ = 2 ^ 53 * spacing value := by
        rw [zpow_add₀ two_ne_zero]
        rfl

theorem isDouble_nearest (value : ℚ) : IsDouble (nearest value) := by
  have hquotient : |value / spacing value| ≤ 2 ^ 53 := by
    rw [abs_div, abs_of_pos (spacing_pos value), div_le_iff₀ (spacing_pos value)]
    exact abs_le_mul_spacing value
  obtain ⟨hlower, hupper⟩ := abs_le.mp hquotient
  have hdigits : |roundHalfEven (value / spacing value)| ≤ 2 ^ 53 :=
    abs_le.mpr ⟨le_roundHalfEven (by exact_mod_cast hlower),
      roundHalfEven_le (by exact_mod_cast hupper)⟩
  have hplace : -1074 ≤ lastPlace value := le_max_right _ _
  rcases hdigits.lt_or_eq with hless | hcarry
  · exact ⟨_, lastPlace value, hless, hplace, rfl⟩
  · -- There is one more digit, and the last one is zero.
    have hpower : (2 : ℚ) ^ (lastPlace value + 1) = 2 * spacing value := by
      rw [zpow_add_one₀ two_ne_zero, mul_comm]
      rfl
    rcases (abs_eq (by norm_num)).mp hcarry with hdigits | hdigits
    · refine ⟨2 ^ 52, lastPlace value + 1, by norm_num, by omega, ?_⟩
      rw [nearest, hdigits, hpower]
      push_cast
      ring
    · refine ⟨-2 ^ 52, lastPlace value + 1, by norm_num, by omega, ?_⟩
      rw [nearest, hdigits, hpower]
      push_cast
      ring

/-- What is left finite has the digits of a double. -/
theorem Datum.isDouble_of_round {datum : Datum} (hround : datum.round = .finite value) :
    IsDouble value := by
  obtain ⟨exact, -, rfl⟩ := Datum.exists_finite_of_round hround
  exact isDouble_nearest exact

/-- A double is a multiple of the distance to the next one. -/
theorem IsDouble.eq_mul_spacing (hdouble : IsDouble value) (hpos : 0 < value) :
    ∃ digits : ℤ, value = digits * spacing value := by
  obtain ⟨digits, place, hdigits, hplace, hvalue⟩ := hdouble
  have hlast : lastPlace value ≤ place := by
    have hlt : value < 2 ^ (53 + place) := by
      have hless : (digits : ℚ) < 2 ^ 53 := by exact_mod_cast (le_abs_self digits).trans_lt hdigits
      rw [hvalue, zpow_add₀ two_ne_zero]
      exact mul_lt_mul_of_pos_right hless (zpow_pos two_pos place)
    have hbound := lastPlace_le_of_lt (53 + place) (by omega) hpos hlt
    omega
  refine ⟨digits * 2 ^ (place - lastPlace value).toNat, ?_⟩
  have hpower : (2 : ℚ) ^ (place - lastPlace value).toNat * spacing value = 2 ^ place := by
    rw [spacing, ← zpow_natCast, Int.toNat_of_nonneg (by omega), ← zpow_add₀ two_ne_zero,
      sub_add_cancel]
  calc value = digits * 2 ^ place := hvalue
    _ = (digits * 2 ^ (place - lastPlace value).toNat : ℤ) * spacing value := by
        rw [← hpower]
        push_cast
        ring

/-- Between a double and a greater multiple of its last place there is a whole place. -/
theorem IsDouble.add_spacing_le (hdouble : IsDouble value) (hpos : 0 < value) {digits : ℤ}
    (hbound : bound = digits * spacing value) (hlt : value < bound) :
    value + spacing value ≤ bound := by
  obtain ⟨own, hown⟩ := hdouble.eq_mul_spacing hpos
  have hless : (own : ℚ) < digits := by
    apply lt_of_mul_lt_mul_right (a := spacing value) _ (spacing_pos value).le
    rwa [← hown, ← hbound]
  have hnext : ((own + 1 : ℤ) : ℚ) ≤ digits := by exact_mod_cast hless
  calc value + spacing value = (own + 1 : ℤ) * spacing value := by
        rw [Int.cast_add, Int.cast_one, add_mul, one_mul, ← hown]
    _ ≤ digits * spacing value := mul_le_mul_of_nonneg_right hnext (spacing_pos value).le
    _ = bound := hbound.symm

/-- Half a place of a quotient of at least a half is less than a place of the dividend,
divided. -/
theorem mul_spacing_div_lt {divisor : ℚ} (hdivisor : 1 ≤ divisor)
    (hhalf : 1 / 2 ≤ value / divisor) :
    divisor * (spacing (value / divisor) / 2) < spacing value := by
  have hpositive : 0 < divisor := by linarith
  have hquotient : 0 < value / divisor := by linarith
  have hpos : 0 < value := by
    rw [lt_div_iff₀ hpositive, zero_mul] at hquotient
    exact hquotient
  have hle : value / divisor ≤ value := div_le_self hpos.le hdivisor
  have hquotientSpacing : spacing (value / divisor) ≤ value / divisor * 2 ^ (-52 : ℤ) := by
    have hplace := lastPlace_of_le (value / divisor) (-1) (by norm_num)
      (by norm_num at hhalf ⊢; exact hhalf)
    rw [spacing, hplace, sub_eq_add_neg, zpow_add₀ two_ne_zero]
    have hlog : (2 : ℚ) ^ Int.log 2 (value / divisor) ≤ value / divisor := by
      exact_mod_cast Int.zpow_log_le_self one_lt_two hquotient
    exact mul_le_mul_of_nonneg_right hlog (by positivity)
  have hspacing : value * 2 ^ (-53 : ℤ) < spacing value := by
    have hlog : value < 2 ^ (Int.log 2 value + 1) := by
      exact_mod_cast Int.lt_zpow_succ_log_self one_lt_two value
    have hplace := lastPlace_of_le value (-1) (by norm_num)
      (by norm_num at hhalf ⊢; exact hhalf.trans hle)
    have hsplit : (2 : ℚ) ^ (Int.log 2 value - 52) =
        2 ^ (Int.log 2 value + 1) * 2 ^ (-53 : ℤ) := by
      rw [← zpow_add₀ two_ne_zero]
      congr 1
      ring
    rw [spacing, hplace, hsplit]
    exact mul_lt_mul_of_pos_right hlog (by positivity)
  calc divisor * (spacing (value / divisor) / 2)
      ≤ divisor * (value / divisor * 2 ^ (-52 : ℤ) / 2) := by gcongr
    _ = value * 2 ^ (-53 : ℤ) := by
        rw [show (-53 : ℤ) = -52 - 1 by norm_num, zpow_sub_one₀ two_ne_zero]
        field_simp
    _ < spacing value := hspacing

/-- The quotient of a double by a whole number is not rounded across an integer. -/
theorem floor_nearest_div (hdouble : IsDouble value) (hlt : value < 2 ^ 53) (divisor : ℕ)
    (hdivisor : 0 < divisor) (hhalf : 1 / 2 ≤ value / divisor) :
    ⌊nearest (value / divisor)⌋ = ⌊value / divisor⌋ := by
  have hdivisor' : (1 : ℚ) ≤ divisor := by exact_mod_cast hdivisor
  have hpositive : (0 : ℚ) < divisor := by linarith
  have hquotient : 0 < value / divisor := by linarith
  have hpos : 0 < value := by
    rw [lt_div_iff₀ hpositive, zero_mul] at hquotient
    exact hquotient
  have hle : value / divisor ≤ value := div_le_self hpos.le hdivisor'
  -- The places of the quotient, and those of the double itself, go below one.
  have hplace : lastPlace (value / divisor) ≤ 0 := by
    have hbound := lastPlace_le_of_lt 53 (by norm_num) hquotient
      (hle.trans_lt (by exact_mod_cast hlt))
    omega
  have hvaluePlace : lastPlace value ≤ 0 := by
    have hbound := lastPlace_le_of_lt 53 (by norm_num) hpos (by exact_mod_cast hlt)
    omega
  rw [Int.floor_eq_iff]
  constructor
  · obtain ⟨digits, hdigits⟩ := exists_eq_mul_zpow hplace ⌊value / divisor⌋
    exact le_nearest hdigits (Int.floor_le _)
  · obtain ⟨digits, hdigits⟩ := exists_eq_mul_zpow hplace (⌊value / divisor⌋ + 1)
    push_cast at hdigits
    refine nearest_lt hdigits ?_
    -- The double is at least a place below the next multiple of the divisor.
    obtain ⟨next, hnext⟩ := exists_eq_mul_zpow hvaluePlace ((⌊value / divisor⌋ + 1) * divisor)
    push_cast at hnext
    have hbelow : value < ((⌊value / divisor⌋ : ℚ) + 1) * divisor := by
      rw [← div_lt_iff₀ hpositive]
      exact Int.lt_floor_add_one _
    have hgap := hdouble.add_spacing_le hpos hnext hbelow
    have hplaces := mul_spacing_div_lt hdivisor' hhalf
    have hmul : (value / divisor + spacing (value / divisor) / 2) * divisor <
        ((⌊value / divisor⌋ : ℚ) + 1) * divisor := by
      rw [add_mul, div_mul_cancel₀ _ hpositive.ne']
      linarith
    have hcancel := lt_of_mul_lt_mul_right hmul hpositive.le
    linarith

end

end Mbstf.Binary64
