import Mbstf.Session.BitRateText
import Mbstf.Session.DistSession

/-!
# The rate limit of a session

A packager is given the bit rate of its session as a whole number of Kbps, 32 bits wide, where
zero stands for no limit.  The number should be the rate rounded down, and zero for no rate or
a rate of zero only.  The conversion is not checked at either end of its range, and what it
rounds down is a rate that was rounded to a double before, up or down.
-/

namespace Mbstf.Session

open Mbstf.Binary64

/-! ## The rate that is stored -/

theorem unitsMultiplier_ne_zero {text : List Char} {multiplier : ℚ}
    (hunits : unitsMultiplier text = .ok multiplier) : multiplier ≠ 0 := by
  obtain ⟨units, hmem, -⟩ := exists_units_of_unitsMultiplier hunits
  simp only [bitRateUnits, List.mem_cons, Prod.mk.injEq, List.not_mem_nil, or_false] at hmem
  rcases hmem with ⟨-, rfl⟩ | ⟨-, rfl⟩ | ⟨-, rfl⟩ | ⟨-, rfl⟩ | ⟨-, rfl⟩ | ⟨-, rfl⟩
  all_goals norm_num

/-- A rate is the number that was read, or its product with a multiplier. -/
theorem bitRate_cases {bitRateStr : String} {rate : BitRate}
    (haccepted : bitRate bitRateStr = .ok rate) :
    ∃ number : Datum, rate = ⟨number, number.round⟩ ∨ ∃ multiplier : ℚ, multiplier ≠ 0 ∧
      rate = ⟨number.mul multiplier, (number.round.mul multiplier).round⟩ := by
  rw [bitRate] at haccepted
  dsimp only at haccepted
  split at haccepted
  · cases hstod : stod bitRateStr.toList with
    | error exception =>
        rw [hstod] at haccepted
        cases haccepted
    | ok reading =>
        rw [hstod] at haccepted
        exact ⟨reading.number, .inl (Except.ok.inj haccepted).symm⟩
  · rw [← numberText] at haccepted
    cases hunits : unitsMultiplier
        (bitRateStr.toList.drop ((numberText bitRateStr).length + 1)) with
    | error exception =>
        rw [hunits] at haccepted
        cases haccepted
    | ok multiplier =>
        rw [hunits] at haccepted
        cases hstod : stod (numberText bitRateStr) with
        | error exception =>
            rw [hstod] at haccepted
            cases haccepted
        | ok reading =>
            rw [hstod] at haccepted
            change (if reading.idx ≠ _ then _ else _ : Except StdException BitRate) = _
              at haccepted
            split at haccepted
            · cases haccepted
            · exact ⟨reading.number, .inr ⟨multiplier, unitsMultiplier_ne_zero hunits,
                (Except.ok.inj haccepted).symm⟩⟩

/-- A rate is stored as a double, which is a rational only for a rational, and zero for
zero. -/
structure BitRate.Stored (bitRate : BitRate) : Prop where
  isDouble : ∀ stored, bitRate.bitRate = .finite stored → IsDouble stored
  rational : ∀ stored, bitRate.bitRate = .finite stored → ∃ exact, bitRate.exact = .finite exact
  zero : bitRate.exact = .finite 0 → bitRate.bitRate = .finite 0

theorem bitRate_stored {bitRateStr : String} {rate : BitRate}
    (haccepted : bitRate bitRateStr = .ok rate) : rate.Stored := by
  obtain ⟨number, rfl | ⟨multiplier, hne, rfl⟩⟩ := bitRate_cases haccepted
  · refine ⟨fun stored hstored => Datum.isDouble_of_round hstored, ?_, ?_⟩
    · intro stored hstored
      obtain ⟨exact, hexact, -⟩ := Datum.exists_finite_of_round hstored
      exact ⟨exact, hexact⟩
    · intro hzero
      dsimp only at hzero ⊢
      rw [hzero, Datum.round_zero]
  · refine ⟨fun stored hstored => Datum.isDouble_of_round hstored, ?_, ?_⟩
    · intro stored hstored
      obtain ⟨product, hproduct, -⟩ := Datum.exists_finite_of_round hstored
      cases number with
      | finite value => exact ⟨value * multiplier, rfl⟩
      | infinite negative => cases hproduct
      | nan => cases hproduct
    · intro hzero
      cases number with
      | finite value =>
          have hvalue : value = 0 :=
            (mul_eq_zero.mp (Datum.finite.inj hzero)).resolve_right hne
          dsimp only
          rw [hvalue, Datum.round_zero, Datum.mul, zero_mul, Datum.round_zero]
      | infinite negative => cases hzero
      | nan => cases hzero

/-! ## The limit -/

/-- What is converted: the stored rate in Kbps, rounded again. -/
def BitRate.kbps (bitRate : BitRate) : Datum := (bitRate.bitRate.div 1000).round

/-- The limit of a session with a rate is what the conversion makes of the rate in Kbps. -/
theorem DistSession.getRateLimit_of_mbr {session : DistSession} {mbr : String} {rate : BitRate}
    (hmbr : session.mbr = some mbr) (hrate : bitRate mbr = .ok rate) :
    session.getRateLimit = .ok (staticCastUInt32 rate.kbps) := by
  have hgetMbr : session.getMbr = .ok (some rate) := by
    rw [DistSession.getMbr, hmbr]
    dsimp only
    rw [hrate]
    rfl
  rw [DistSession.getRateLimit, hgetMbr]
  rfl

/-- A value that `static_cast<uint32_t>` is defined for: what is left of it without its
fraction fits. -/
def ConvertsToUInt32 : Datum → Prop
  | .finite value => -1 < value ∧ value < 2 ^ 32
  | .infinite _ => False
  | .nan => False

/-- Where the conversion is defined it takes the fraction away. -/
theorem staticCastUInt32_of_converts {value : ℚ} (hconverts : ConvertsToUInt32 (.finite value)) :
    (staticCastUInt32 (.finite value) : ℤ) = truncate value := by
  obtain ⟨hleast, hmost⟩ := hconverts
  have hfits : 0 ≤ truncate value ∧ truncate value < 2 ^ 32 := by
    rw [truncate]
    split
    case isTrue hnonneg =>
        refine ⟨Int.floor_nonneg.mpr hnonneg, ?_⟩
        rw [Int.floor_lt]
        exact_mod_cast hmost
    case isFalse hneg =>
        have hceil : ⌈value⌉ = 0 := by
          rw [Int.ceil_eq_zero_iff]
          exact ⟨hleast, (not_le.mp hneg).le⟩
        rw [hceil]
        norm_num
  rw [staticCastUInt32, if_pos ⟨by omega, by omega⟩, Int.emod_eq_of_lt hfits.1 hfits.2,
    Int.toNat_of_nonneg hfits.1]

/-- In the range of the result the conversion rounds down. -/
theorem staticCastUInt32_of_lt {value : ℚ} (hnonneg : 0 ≤ value) (hlt : value < 2 ^ 32) :
    (staticCastUInt32 (.finite value) : ℤ) = ⌊value⌋ := by
  rw [staticCastUInt32_of_converts ⟨by linarith, hlt⟩, truncate_of_nonneg hnonneg]

/-- The session has this rate and this limit. -/
structure Limits (session : DistSession) (rate : BitRate) (limit : ℕ) : Prop where
  accepted : ∃ mbr, session.mbr = some mbr ∧ bitRate mbr = .ok rate
  returned : session.getRateLimit = .ok limit

/-- Limits preserve the exact rates of sessions. -/
structure RatePreserved (sessions : Set DistSession) : Prop where
  converts : ∀ session ∈ sessions, ∀ rate limit, Limits session rate limit →
    ConvertsToUInt32 rate.kbps
  floors : ∀ session ∈ sessions, ∀ rate limit exact, Limits session rate limit →
    rate.exact = .finite exact →
      (limit : ℤ) = ⌊exact / 1000⌋ ∧ 0 ≤ ⌊exact / 1000⌋ ∧ ⌊exact / 1000⌋ < 2 ^ 32
  monotone : ∀ left ∈ sessions, ∀ right ∈ sessions, ∀ leftRate rightRate leftLimit rightLimit
    less more, Limits left leftRate leftLimit → Limits right rightRate rightLimit →
      leftRate.exact = .finite less → rightRate.exact = .finite more → less ≤ more →
        leftLimit ≤ rightLimit
  unlimited : ∀ session ∈ sessions, session.getRateLimit = .ok 0 →
    session.mbr = none ∨ ∃ mbr rate, session.mbr = some mbr ∧ bitRate mbr = .ok rate ∧
      rate.exact = .finite 0

/-- A rate that is zero or at least one Kbps, with as many Kbps as 32 bits hold, and such that
the double stored for it has the same whole number of Kbps. -/
def RateFits (bitRate : BitRate) : Prop :=
  ∃ exact stored, bitRate.exact = .finite exact ∧ bitRate.bitRate = .finite stored ∧
    (exact = 0 ∨ (1000 ≤ exact ∧ exact < 2 ^ 32 * 1000)) ∧ ⌊stored / 1000⌋ = ⌊exact / 1000⌋

/-- A quotient of at least one Kbps that is rounded into the range has the whole number of Kbps
that it had. -/
theorem floor_nearest_kbps {stored : ℚ} (hdouble : IsDouble stored)
    (hleast : 1 / 2 ≤ stored / 1000) (hmost : stored / 1000 < 2 ^ 33) :
    ⌊nearest (stored / 1000)⌋ = ⌊stored / 1000⌋ := by
  have hlt : stored < 2 ^ 53 := by
    rw [div_lt_iff₀ (by norm_num)] at hmost
    exact hmost.trans_le (by norm_num)
  exact_mod_cast floor_nearest_div hdouble hlt 1000 (by norm_num)
    (by exact_mod_cast hleast)

namespace RateFits

variable {rate : BitRate}

/-- The limit of a rate that fits is the whole number of Kbps, in a conversion that is
defined. -/
theorem limit_eq (hfits : RateFits rate) (hstored : rate.Stored) {exact : ℚ}
    (hexact : rate.exact = .finite exact) : ConvertsToUInt32 rate.kbps ∧
      (staticCastUInt32 rate.kbps : ℤ) = ⌊exact / 1000⌋ ∧ 0 ≤ ⌊exact / 1000⌋ ∧
      ⌊exact / 1000⌋ < 2 ^ 32 ∧ (⌊exact / 1000⌋ = 0 → exact = 0) := by
  obtain ⟨value, stored, hvalue, hbitRate, hrange, hfloor⟩ := hfits
  obtain rfl := Datum.finite.inj (hvalue.symm.trans hexact)
  rcases hrange with rfl | ⟨hleast, hmost⟩
  · have hkbps : rate.kbps = .finite 0 := by
      rw [BitRate.kbps, hstored.zero hexact, Datum.div, zero_div, Datum.round_zero]
    have hconverts : ConvertsToUInt32 (.finite 0) := ⟨by norm_num, by norm_num⟩
    rw [hkbps, staticCastUInt32_of_lt le_rfl (by norm_num)]
    exact ⟨hconverts, by norm_num⟩
  · have hone : 1 ≤ ⌊value / 1000⌋ := by
      rw [Int.le_floor]
      push_cast
      linarith
    have hlt : ⌊value / 1000⌋ < 2 ^ 32 := by
      rw [Int.floor_lt, div_lt_iff₀ (by norm_num)]
      push_cast
      exact hmost
    have hstoredLeast : 1 ≤ stored / 1000 := by
      rw [← hfloor, Int.le_floor] at hone
      exact_mod_cast hone
    have hstoredMost : stored / 1000 < 2 ^ 32 := by
      rw [← hfloor, Int.floor_lt] at hlt
      exact_mod_cast hlt
    have hrounded : ⌊nearest (stored / 1000)⌋ = ⌊value / 1000⌋ :=
      (floor_nearest_kbps (hstored.isDouble stored hbitRate) (by linarith)
        (hstoredMost.trans (by norm_num))).trans hfloor
    have hquotientLeast : 1 ≤ nearest (stored / 1000) := by
      rw [← hrounded, Int.le_floor] at hone
      exact_mod_cast hone
    have hquotientMost : nearest (stored / 1000) < 2 ^ 32 := by
      rw [← hrounded, Int.floor_lt] at hlt
      exact_mod_cast hlt
    have hkbps : rate.kbps = .finite (nearest (stored / 1000)) := by
      have hinside : ¬ (2 : ℚ) ^ 1024 ≤ |nearest (stored / 1000)| := by
        rw [abs_of_pos (by linarith), not_le]
        exact hquotientMost.trans (pow_lt_pow_right₀ one_lt_two (by norm_num))
      rw [BitRate.kbps, hbitRate, Datum.div, Datum.round, if_neg hinside]
    rw [hkbps, staticCastUInt32_of_lt (by linarith) hquotientMost, hrounded]
    exact ⟨⟨by linarith, hquotientMost⟩, rfl, by omega, hlt, fun hzero => by omega⟩

end RateFits

theorem Limits.of_mbr {session : DistSession} {mbr : String} {rate : BitRate}
    (hmbr : session.mbr = some mbr) (hrate : bitRate mbr = .ok rate) :
    Limits session rate (staticCastUInt32 rate.kbps) :=
  ⟨⟨mbr, hmbr, hrate⟩, DistSession.getRateLimit_of_mbr hmbr hrate⟩

/-- The limit comes of the rate, which comes of a string. -/
theorem Limits.eq {session : DistSession} {rate : BitRate} {limit : ℕ}
    (hlimits : Limits session rate limit) :
    limit = staticCastUInt32 rate.kbps ∧ rate.Stored := by
  obtain ⟨mbr, hmbr, hrate⟩ := hlimits.accepted
  have hreturned := hlimits.returned
  rw [DistSession.getRateLimit_of_mbr hmbr hrate] at hreturned
  exact ⟨(Except.ok.inj hreturned).symm, bitRate_stored hrate⟩

/-- What is converted to a positive number is that number with a fraction, and was so before
it was rounded. -/
theorem floor_of_kbps {rate : BitRate} (hstored : rate.Stored) {stored : ℚ}
    (hbitRate : rate.bitRate = .finite stored) {quotient : ℚ}
    (hkbps : rate.kbps = .finite quotient) (hconverts : ConvertsToUInt32 (.finite quotient))
    (hpositive : 0 < (staticCastUInt32 (.finite quotient) : ℤ)) :
    (staticCastUInt32 (.finite quotient) : ℤ) = ⌊stored / 1000⌋ := by
  have hnearest : nearest (stored / 1000) = quotient := by
    rw [BitRate.kbps, hbitRate, Datum.div] at hkbps
    obtain ⟨exact, hexact, hround⟩ := Datum.exists_finite_of_round hkbps
    rw [Datum.finite.inj hexact]
    exact hround
  have hnonneg : 0 ≤ quotient := by
    by_contra hneg
    rw [staticCastUInt32_of_converts hconverts, truncate, if_neg hneg] at hpositive
    exact absurd (Int.ceil_pos.mp hpositive) (not_lt.mpr (not_le.mp hneg).le)
  rw [staticCastUInt32_of_lt hnonneg hconverts.2] at hpositive ⊢
  have hone : 1 ≤ quotient := by
    have hfloor : (1 : ℤ) ≤ ⌊quotient⌋ := hpositive
    rw [Int.le_floor] at hfloor
    exact_mod_cast hfloor
  have hleast : 1 / 2 ≤ stored / 1000 := by
    by_contra hless
    have hhalf := nearest_le_zpow (stored / 1000) (-1) (by norm_num)
      (by norm_num at hless ⊢; exact hless)
    rw [hnearest] at hhalf
    norm_num at hhalf
    linarith
  have hmost : stored / 1000 < 2 ^ 33 := by
    by_contra hmore
    have hlarge := zpow_le_nearest (stored / 1000) 33 (by norm_num)
      (by exact_mod_cast not_lt.mp hmore)
    rw [hnearest] at hlarge
    have hless := hconverts.2.trans (by norm_num : (2 : ℚ) ^ 32 < 2 ^ (33 : ℤ))
    exact absurd hlarge (not_le.mpr hless)
  rw [← hnearest, floor_nearest_kbps (hstored.isDouble stored hbitRate) hleast hmost]

/-- A rate that is preserved fits: a rate out of range has no 32-bit number of Kbps, one below
one Kbps is given no limit, and the limit of any other is that of the double stored for it. -/
theorem RatePreserved.rateFits {sessions : Set DistSession} (hpreserved : RatePreserved sessions)
    {session : DistSession} (hmem : session ∈ sessions) {mbr : String} {rate : BitRate}
    (hmbr : session.mbr = some mbr) (hrate : bitRate mbr = .ok rate) : RateFits rate := by
  have hlimits := Limits.of_mbr hmbr hrate
  have hstored := bitRate_stored hrate
  have hconverts := hpreserved.converts session hmem _ _ hlimits
  cases hkbps : rate.kbps with
  | infinite negative => exact (hkbps ▸ hconverts : ConvertsToUInt32 (.infinite negative)).elim
  | nan => exact (hkbps ▸ hconverts : ConvertsToUInt32 .nan).elim
  | finite quotient =>
      rw [hkbps] at hconverts hlimits
      obtain ⟨stored, hbitRate⟩ : ∃ stored, rate.bitRate = .finite stored := by
        obtain ⟨divided, hdivided, -⟩ := Datum.exists_finite_of_round hkbps
        cases hbitRate : rate.bitRate with
        | finite stored => exact ⟨stored, rfl⟩
        | infinite negative =>
            rw [hbitRate] at hdivided
            cases hdivided
        | nan =>
            rw [hbitRate] at hdivided
            cases hdivided
      obtain ⟨exact, hexact⟩ := hstored.rational stored hbitRate
      obtain ⟨hfloor, hleast, hmost⟩ := hpreserved.floors session hmem _ _ exact hlimits hexact
      by_cases hzero : ⌊exact / 1000⌋ = 0
      · have hunlimited : session.getRateLimit = .ok 0 := by
          rw [hzero] at hfloor
          rw [hlimits.returned, Int.natCast_eq_zero.mp hfloor]
        have hnone : exact = 0 := by
          rcases hpreserved.unlimited session hmem hunlimited with hnone |
            ⟨other, found, hother, hfound, hvalue⟩
          · rw [hnone] at hmbr
            cases hmbr
          · obtain rfl := Option.some.inj (hother.symm.trans hmbr)
            obtain rfl := Except.ok.inj (hfound.symm.trans hrate)
            exact Datum.finite.inj (hexact.symm.trans hvalue)
        subst hnone
        exact ⟨0, 0, hexact, hstored.zero hexact, .inl rfl, rfl⟩
      · have hpositive : 0 < (staticCastUInt32 (.finite quotient) : ℤ) := by omega
        have hsame := floor_of_kbps hstored hbitRate hkbps hconverts hpositive
        have hone : (1 : ℤ) ≤ ⌊exact / 1000⌋ := by omega
        rw [Int.le_floor] at hone
        rw [Int.floor_lt, div_lt_iff₀ (by norm_num)] at hmost
        push_cast at hone hmost
        exact ⟨exact, stored, hexact, hbitRate, .inr ⟨by linarith, hmost⟩,
          hsame.symm.trans hfloor⟩

/-- The limits of sessions preserve their rates just when every rate fits. -/
theorem ratePreserved_iff (sessions : Set DistSession) :
    RatePreserved sessions ↔ ∀ session ∈ sessions, ∀ mbr rate, session.mbr = some mbr →
      bitRate mbr = .ok rate → RateFits rate := by
  constructor
  · intro hpreserved session hmem mbr rate hmbr hrate
    exact hpreserved.rateFits hmem hmbr hrate
  · intro hall
    have hfits : ∀ session ∈ sessions, ∀ rate limit, Limits session rate limit →
        RateFits rate := by
      intro session hmem rate limit hlimits
      obtain ⟨mbr, hmbr, hrate⟩ := hlimits.accepted
      exact hall session hmem mbr rate hmbr hrate
    refine ⟨?_, ?_, ?_, ?_⟩
    · intro session hmem rate limit hlimits
      obtain ⟨exact, -, hexact, -⟩ := hfits session hmem rate limit hlimits
      exact ((hfits session hmem rate limit hlimits).limit_eq hlimits.eq.2 hexact).1
    · intro session hmem rate limit exact hlimits hexact
      obtain ⟨rfl, hstored⟩ := hlimits.eq
      obtain ⟨-, hfloor, hleast, hmost, -⟩ :=
        (hfits session hmem rate _ hlimits).limit_eq hstored hexact
      exact ⟨hfloor, hleast, hmost⟩
    · intro left hleft right hright leftRate rightRate leftLimit rightLimit less more
        hleftLimits hrightLimits hless hmore hle
      obtain ⟨rfl, hleftStored⟩ := hleftLimits.eq
      obtain ⟨rfl, hrightStored⟩ := hrightLimits.eq
      obtain ⟨-, hleftFloor, -⟩ :=
        (hfits left hleft leftRate _ hleftLimits).limit_eq hleftStored hless
      obtain ⟨-, hrightFloor, -⟩ :=
        (hfits right hright rightRate _ hrightLimits).limit_eq hrightStored hmore
      have hfloors : ⌊less / 1000⌋ ≤ ⌊more / 1000⌋ := Int.floor_le_floor (by linarith)
      omega
    · intro session hmem hreturned
      cases hmbr : session.mbr with
      | none => exact .inl rfl
      | some mbr =>
          cases hrate : bitRate mbr with
          | error exception =>
              rw [DistSession.getRateLimit, DistSession.getMbr, hmbr] at hreturned
              dsimp only at hreturned
              rw [hrate] at hreturned
              cases hreturned
          | ok rate =>
              have hlimits : Limits session rate 0 := ⟨⟨mbr, hmbr, hrate⟩, hreturned⟩
              obtain ⟨exact, -, hexact, -⟩ := hfits session hmem rate 0 hlimits
              obtain ⟨-, hfloor, -, -, hnone⟩ :=
                (hfits session hmem rate 0 hlimits).limit_eq hlimits.eq.2 hexact
              rw [← hlimits.eq.1] at hfloor
              rw [hnone (by exact_mod_cast hfloor.symm)] at hexact
              exact .inr ⟨mbr, rate, rfl, hrate, hexact⟩

/-! ## Sessions without their rates -/

/-- A session with a bit rate and nothing else. -/
def bareSession (mbr : String) : DistSession := ⟨"", none, some mbr, none, none, none, ""⟩

/-- A session with a rate that does not fit. -/
theorem not_ratePreserved_of_rate {mbr : String} {exact stored : ℚ}
    (hrate : bitRate mbr = .ok ⟨.finite exact, .finite stored⟩)
    (hfits : ¬ ((exact = 0 ∨ (1000 ≤ exact ∧ exact < 2 ^ 32 * 1000)) ∧
      ⌊stored / 1000⌋ = ⌊exact / 1000⌋))
    {sessions : Set DistSession} (hmem : bareSession mbr ∈ sessions) :
    ¬ RatePreserved sessions := by
  intro hpreserved
  obtain ⟨value, double, hvalue, hdouble, hrange, hfloor⟩ := hpreserved.rateFits hmem rfl hrate
  obtain rfl := Datum.finite.inj hvalue
  obtain rfl := Datum.finite.inj hdouble
  exact hfits ⟨hrange, hfloor⟩

/-- Below one Kbps there is no limit, beyond 32 bits or below zero it is another one, and the
double for a rate may lie below its whole number of Kbps. -/
theorem bareSession_limits :
    ((bareSession "500 bps").getRateLimit = .ok 0 ∧
        ¬ RatePreserved {bareSession "500 bps"}) ∧
      ((bareSession "4 Tbps").getRateLimit = .ok 4000000000 ∧
        (bareSession "9 Tbps").getRateLimit = .ok 410065408 ∧
        ¬ RatePreserved {bareSession "4 Tbps", bareSession "9 Tbps"}) ∧
      ((bareSession "-5 Kbps").getRateLimit = .ok 4294967291 ∧
        ¬ RatePreserved {bareSession "-5 Kbps"}) ∧
      ((bareSession "8.2 Mbps").getRateLimit = .ok 8199 ∧
        ¬ RatePreserved {bareSession "8.2 Mbps"}) := by
  have hbps : bitRate "500 bps" = .ok ⟨.finite 500, .finite 500⟩ := by decide +kernel
  have hnine : bitRate "9 Tbps" = .ok ⟨.finite 9000000000000, .finite 9000000000000⟩ := by
    decide +kernel
  have hnegative : bitRate "-5 Kbps" = .ok ⟨.finite (-5000), .finite (-5000)⟩ := by
    decide +kernel
  have hrounded : bitRate "8.2 Mbps" =
      .ok ⟨.finite 8200000, .finite (8804682956799999 / 1073741824)⟩ := by decide +kernel
  refine ⟨⟨by decide +kernel, ?_⟩, ⟨by decide +kernel, by decide +kernel, ?_⟩,
    ⟨by decide +kernel, ?_⟩, by decide +kernel, ?_⟩
  · exact not_ratePreserved_of_rate hbps (by norm_num) rfl
  · exact not_ratePreserved_of_rate hnine (by norm_num) (Or.inr rfl)
  · exact not_ratePreserved_of_rate hnegative (by norm_num) rfl
  · have hbelow : ⌊(8804682956799999 / 1073741824 / 1000 : ℚ)⌋ < 8200 := by
      rw [Int.floor_lt]
      norm_num
    have hwhole : ⌊(8200000 / 1000 : ℚ)⌋ = 8200 := by norm_num
    exact not_ratePreserved_of_rate hrounded (fun hfits => by omega) rfl

end Mbstf.Session
