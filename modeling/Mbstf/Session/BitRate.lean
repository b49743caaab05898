import Mbstf.Core.Binary64

/-!
# Bit rates

A `BitRate` is assigned from a string: a number as `std::stod` reads it, alone or followed
by one blank and a unit.  The number is rounded to a double when it is read, and so is its
product with the multiplier of the unit.  The rate without any rounding is kept beside it.
-/

namespace Mbstf.Session

open Mbstf.Binary64

/-- The classes of exceptions that the code tells apart, and those that derive from
`std::runtime_error`. -/
inductive ExceptionKind where
  | logicError
  | invalidArgument
  | outOfRange
  | runtimeError
  | derivedRuntimeError (className : String)
  deriving DecidableEq

/-- A `std::exception`, by its dynamic class and its `what()`. -/
structure StdException where
  kind : ExceptionKind
  what : String
  deriving DecidableEq

/-- Whether a handler for `std::runtime_error` catches the exception.
`std::invalid_argument` and `std::out_of_range` derive from `std::logic_error`. -/
def StdException.isRuntimeError (exception : StdException) : Bool :=
  match exception.kind with
  | .runtimeError => true
  | .derivedRuntimeError _ => true
  | .logicError => false
  | .invalidArgument => false
  | .outOfRange => false

def StdException.isOutOfRange (exception : StdException) : Bool :=
  exception.kind = .outOfRange

/-! ## `std::stod` -/

/-- A sign in front of a text, its length, and the rest. -/
def scanSign : List Char → ℤ × ℕ × List Char
  | '-' :: rest => (-1, 1, rest)
  | '+' :: rest => (1, 1, rest)
  | text => (1, 0, text)

/-- The number a list of decimal digits stands for. -/
def digitsValue (digits : List Char) : ℕ :=
  digits.foldl (fun value digit => 10 * value + (digit.toNat - '0'.toNat)) 0

/-- An exponent part and its length; a mark without digits is no exponent. -/
def scanExponent : List Char → ℤ × ℕ
  | [] => (0, 0)
  | mark :: rest =>
      let (sign, signLength, text) := scanSign rest
      let digits := text.takeWhile Char.isDigit
      if (mark = 'e' ∨ mark = 'E') ∧ digits ≠ [] then
        (sign * digitsValue digits, 1 + signLength + digits.length)
      else (0, 0)

/-- The digits behind a decimal point, and the length of both. -/
def scanFraction : List Char → List Char × ℕ
  | '.' :: rest => (rest.takeWhile Char.isDigit, 1 + (rest.takeWhile Char.isDigit).length)
  | _ => ([], 0)

/-- The decimal numeral a text begins with: its value and its length. -/
def scanNumeral (text : List Char) : Option (ℚ × ℕ) :=
  let (sign, signLength, unsigned) := scanSign text
  let whole := unsigned.takeWhile Char.isDigit
  let (fraction, fractionLength) := scanFraction (unsigned.drop whole.length)
  if whole = [] ∧ fraction = [] then none
  else
    let (exponent, exponentLength) :=
      scanExponent (unsigned.drop (whole.length + fractionLength))
    let mantissa : ℚ := digitsValue (whole ++ fraction)
    some (sign * mantissa * 10 ^ (exponent - fraction.length),
      signLength + whole.length + fractionLength + exponentLength)

/-- A digit of a hexadecimal numeral. -/
def isHexDigit (character : Char) : Bool :=
  character.isDigit || ('a' ≤ character.toLower && character.toLower ≤ 'f')

def hexDigitValue (digit : Char) : ℕ :=
  if digit.isDigit then digit.toNat - '0'.toNat else digit.toLower.toNat - 'a'.toNat + 10

/-- The number a list of hexadecimal digits stands for. -/
def hexDigitsValue (digits : List Char) : ℕ :=
  digits.foldl (fun value digit => 16 * value + hexDigitValue digit) 0

/-- A power of two, in decimal digits, and its length. -/
def scanBinaryExponent : List Char → ℤ × ℕ
  | [] => (0, 0)
  | mark :: rest =>
      let (sign, signLength, text) := scanSign rest
      let digits := text.takeWhile Char.isDigit
      if (mark = 'p' ∨ mark = 'P') ∧ digits ≠ [] then
        (sign * digitsValue digits, 1 + signLength + digits.length)
      else (0, 0)

/-- The hexadecimal digits behind a point, and the length of both. -/
def scanHexFraction : List Char → List Char × ℕ
  | '.' :: rest => (rest.takeWhile isHexDigit, 1 + (rest.takeWhile isHexDigit).length)
  | _ => ([], 0)

/-- The hexadecimal numeral without a sign that a text begins with. -/
def scanHexadecimal : List Char → Option (ℚ × ℕ)
  | '0' :: mark :: text =>
      let whole := text.takeWhile isHexDigit
      let (fraction, fractionLength) := scanHexFraction (text.drop whole.length)
      if (mark = 'x' ∨ mark = 'X') ∧ ¬ (whole = [] ∧ fraction = []) then
        let (exponent, exponentLength) :=
          scanBinaryExponent (text.drop (whole.length + fractionLength))
        some (hexDigitsValue (whole ++ fraction) * 2 ^ (exponent - 4 * fraction.length),
          2 + whole.length + fractionLength + exponentLength)
      else none
  | _ => none

/-- A text begins with a word, in upper or lower case. -/
def beginsWith (word : List Char) (text : List Char) : Bool :=
  (text.take word.length).map Char.toLower = word

/-- What may stand in parentheses behind `nan`, and its length with them. -/
def scanPayload : List Char → ℕ
  | '(' :: rest =>
      let characters := rest.takeWhile fun character => character.isAlphanum || character = '_'
      if (rest.drop characters.length).head? = some ')' then characters.length + 2 else 0
  | _ => 0

/-- An infinity, or no number, that a text begins with, and its length. -/
def scanWord (negative : Bool) (text : List Char) : Option (Datum × ℕ) :=
  if beginsWith "infinity".toList text then some (.infinite negative, 8)
  else if beginsWith "inf".toList text then some (.infinite negative, 3)
  else if beginsWith "nan".toList text then some (.nan, 3 + scanPayload (text.drop 3))
  else none

/-- What `strtod` finds at the start of a text: a hexadecimal numeral, a word or a decimal
numeral, and its length. -/
def scanNumber (text : List Char) : Option (Datum × ℕ) :=
  let (sign, signLength, unsigned) := scanSign text
  match scanHexadecimal unsigned with
  | some (value, length) => some (.finite (sign * value), signLength + length)
  | none =>
      match scanWord (sign = -1) unsigned with
      | some (word, length) => some (word, signLength + length)
      | none => (scanNumeral text).map fun (value, length) => (.finite value, length)

/-- Whether `strtod` reports a number as out of range: it is rounded to an infinity, or to
something else than itself that is below the least normal double. -/
def outOfRange (value : ℚ) : Bool :=
  2 ^ 1024 ≤ |nearest value| ∨
    (|value| < 1 / 2 ^ 1022 - 1 / 2 ^ 1076 ∧ nearest value ≠ value)

/-- White space of the C locale. -/
def isSpace (character : Char) : Bool :=
  character = ' ' ∨ (9 ≤ character.toNat ∧ character.toNat ≤ 13)

/-- A number that was read, and how many characters were used, leading white space
included. -/
structure Reading where
  number : Datum
  idx : ℕ
  deriving DecidableEq

/-- What `std::stod` returns. -/
def Reading.value (reading : Reading) : Datum := reading.number.round

/-- `std::stod(text, &idx)`. -/
def stod (text : List Char) : Except StdException Reading :=
  let blanks := text.takeWhile isSpace
  match scanNumber (text.drop blanks.length) with
  | none => .error ⟨.invalidArgument, "stod"⟩
  | some (.finite value, length) =>
      if outOfRange value then .error ⟨.outOfRange, "stod"⟩
      else .ok ⟨.finite value, blanks.length + length⟩
  | some (word, length) => .ok ⟨word, blanks.length + length⟩

/-! ## `BitRate` -/

/-- The multiplier of a unit. -/
def unitsMultiplier (units : List Char) : Except StdException ℚ :=
  if units = "Tbps".toList then .ok 1000000000000
  else if units = "Gbps".toList then .ok 1000000000
  else if units = "Mbps".toList then .ok 1000000
  else if units = "Kbps".toList then .ok 1000
  else if units = "bps".toList ∨ units = [] then .ok 1
  else .error ⟨.invalidArgument, "Unknown BitRate units \"" ++ String.ofList units ++ "\""⟩

/-- A `BitRate`, with the double that it stores, in bit/s.  `exact` is not in the source: it
is the rate that the string stands for. -/
structure BitRate where
  exact : Datum
  bitRate : Datum
  deriving DecidableEq

/-- The exact rate as a rational; an infinity and no number have none. -/
def BitRate.rate (bitRate : BitRate) : ℚ :=
  match bitRate.exact with
  | .finite value => value
  | .infinite _ => 0
  | .nan => 0

/-- `BitRate(const std::string&)`. -/
def bitRate (bitRateStr : String) : Except StdException BitRate :=
  let text := bitRateStr.toList
  if ' ' ∉ text then do
    let reading ← stod text
    return ⟨reading.number, reading.value⟩
  else do
    let num := text.takeWhile (· ≠ ' ')
    let multiplier ← unitsMultiplier (text.drop (num.length + 1))
    let reading ← stod num
    if reading.idx ≠ num.length then throw ⟨.invalidArgument, "Invalid bitrate value"⟩
    return ⟨reading.number.mul multiplier, (reading.value.mul multiplier).round⟩

/-! ## What is thrown -/

section

variable {First Value : Type}

/-- What is thrown, if anything is, is no `std::runtime_error`. -/
def ThrowsLogic (result : Except StdException Value) : Prop :=
  ∀ exception, result = .error exception → exception.isRuntimeError = false

theorem ThrowsLogic.ok (value : Value) : ThrowsLogic (.ok value) := by
  intro exception herror
  cases herror

theorem ThrowsLogic.error {exception : StdException} (hkind : exception.isRuntimeError = false) :
    ThrowsLogic (.error exception : Except StdException Value) :=
  fun _ herror => Except.error.inj herror ▸ hkind

theorem ThrowsLogic.bind {first : Except StdException First}
    {rest : First → Except StdException Value} (hfirst : ThrowsLogic first)
    (hrest : ∀ value, ThrowsLogic (rest value)) : ThrowsLogic (first >>= rest) := by
  cases first with
  | error exception => exact ThrowsLogic.error (hfirst exception rfl)
  | ok value => exact hrest value

theorem ThrowsLogic.map {first : Except StdException First} (hfirst : ThrowsLogic first)
    (result : First → Value) : ThrowsLogic (first.map result) := by
  cases first with
  | error exception => exact ThrowsLogic.error (hfirst exception rfl)
  | ok value => exact ThrowsLogic.ok (result value)

theorem stod_throwsLogic (text : List Char) : ThrowsLogic (stod text) := by
  rw [stod]
  split
  · exact ThrowsLogic.error rfl
  · split
    · exact ThrowsLogic.error rfl
    · exact ThrowsLogic.ok _
  · exact ThrowsLogic.ok _

theorem unitsMultiplier_throwsLogic (units : List Char) :
    ThrowsLogic (unitsMultiplier units) := by
  rw [unitsMultiplier]
  repeat' split
  all_goals first
    | exact ThrowsLogic.ok _
    | exact ThrowsLogic.error rfl

theorem bitRate_throwsLogic (bitRateStr : String) : ThrowsLogic (bitRate bitRateStr) := by
  rw [bitRate]
  dsimp only
  split
  · exact (stod_throwsLogic _).bind fun _ => ThrowsLogic.ok _
  · refine (unitsMultiplier_throwsLogic _).bind fun multiplier =>
      (stod_throwsLogic _).bind fun read => ?_
    split
    · exact ThrowsLogic.error rfl
    · exact ThrowsLogic.ok _

end

/-! ## Conversions -/

/-- A rational without its fraction, as conversions to integers take it. -/
def truncate (value : ℚ) : ℤ := if 0 ≤ value then ⌊value⌋ else ⌈value⌉

/-- `static_cast<int>`.  A value that does not fit has no defined result; the one
here is what the conversion instruction of x86-64 gives. -/
def staticCastInt (value : ℚ) : ℤ :=
  if -2 ^ 31 ≤ truncate value ∧ truncate value < 2 ^ 31 then truncate value else -2 ^ 31

/-- `static_cast<uint32_t>`, in the same manner: through 64 bits, of which the
lower half is kept. -/
def staticCastUInt32 : Datum → ℕ
  | .finite value =>
      if -2 ^ 63 ≤ truncate value ∧ truncate value < 2 ^ 63 then
        (truncate value % 2 ^ 32).toNat
      else 0
  | .infinite _ => 0
  | .nan => 0

theorem truncate_of_nonneg {value : ℚ} (hvalue : 0 ≤ value) : truncate value = ⌊value⌋ := by
  rw [truncate, if_pos hvalue]

theorem staticCastInt_of_lt {value : ℚ} (hnonneg : 0 ≤ value) (hlt : value < 2 ^ 31) :
    staticCastInt value = ⌊value⌋ := by
  have hfloor : 0 ≤ ⌊value⌋ := Int.floor_nonneg.mpr hnonneg
  have hbound : ⌊value⌋ < 2 ^ 31 := by
    rw [Int.floor_lt]
    exact_mod_cast hlt
  rw [staticCastInt, truncate_of_nonneg hnonneg, if_pos]
  exact ⟨by omega, hbound⟩

end Mbstf.Session
