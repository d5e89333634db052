/-! # Decimal numbers

A number is an integer times a power of ten, both of any size. Different pairs may denote one value;
`normalized` moves every trailing zero into the exponent, and the conversions to integers depend on
the value alone. -/

namespace Lexing

/-- The value `val * 10 ^ exp`. -/
structure Number where
  val : Int
  exp : Int
  deriving DecidableEq, Repr

namespace Number

/-- The written form: the exponent follows the letter `e` unless it is zero. -/
def display (number : Number) : String :=
  if number.exp = 0 then toString number.val
  else toString number.val ++ "e" ++ toString number.exp

/-- Moves trailing zeros of `val` into `exp`; zero itself is left as it is. -/
def normalized (number : Number) : Number :=
  if more : number.val ≠ 0 ∧ number.val % 10 = 0 then
    normalized ⟨number.val / 10, number.exp + 1⟩
  else number
termination_by number.val.natAbs
decreasing_by omega

def isInt (number : Number) : Bool :=
  let shortest := number.normalized
  shortest.val == 0 || decide (0 ≤ shortest.exp)

/-- Why a number has no value of an integer type. -/
inductive ConversionError where
  | notInt
  | outOfRange
  deriving DecidableEq, Repr

/-- Exponents above this one exceed every supported range unless the value is zero. -/
def largestExponent : Nat := 38

/-- A power of ten as a 32-bit word. -/
def powerWord? (exp : Int) : Except ConversionError Nat :=
  if 0 ≤ exp ∧ exp < 4294967296 then .ok exp.toNat else .error .outOfRange

/-- The integer that a number denotes, unless its size alone rules out every range. -/
def toInt? (number : Number) : Except ConversionError Int :=
  let shortest := number.normalized
  if shortest.val = 0 then .ok 0
  else if shortest.exp < 0 then .error .notInt
  else
    match powerWord? shortest.exp with
    | .error cause => .error cause
    | .ok power =>
        if largestExponent < power then .error .outOfRange
        else .ok (shortest.val * Nat.pow 10 power)

/-- An integer type, known by its least and its greatest value. -/
structure IntegerRange where
  least : Int
  greatest : Int
  deriving DecidableEq, Repr

namespace IntegerRange

def int32 : IntegerRange := ⟨-2147483648, 2147483647⟩

def int64 : IntegerRange := ⟨-9223372036854775808, 9223372036854775807⟩

def uint32 : IntegerRange := ⟨0, 4294967295⟩

def uint64 : IntegerRange := ⟨0, 18446744073709551615⟩

end IntegerRange

/-- The value of a number in an integer type. -/
def convert (range : IntegerRange) (number : Number) : Except ConversionError Int :=
  match number.toInt? with
  | .error cause => .error cause
  | .ok value =>
      if range.least ≤ value ∧ value ≤ range.greatest then .ok value else .error .outOfRange

end Number

end Lexing
