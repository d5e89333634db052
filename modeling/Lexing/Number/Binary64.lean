import Lexing.Number

/-! # Nearest binary floating-point value

`roundQuotient` gives the bit pattern of the 64-bit value nearest to a quotient of natural numbers, a
tie going to the even pattern. Patterns of positive values are ordered as the values are, and the
exponent field continues the significand, so a significand that rounds up to the next power of two
needs no case of its own. -/

namespace Lexing.Number.Binary64

/-- Significand bits that are stored. -/
def storedBits : Nat := 52

/-- The least significand with all its bits, in units in the last place. -/
def leastSignificand : Nat := 0x10000000000000

/-- The exponent of the unit in which subnormal values are counted. -/
def leastExponent : Int := -1074

/-- The pattern of infinity. -/
def infinity : Nat := 0x7FF0000000000000

/-- The pattern of the sign. -/
def signBit : Nat := 0x8000000000000000

/-- A quotient of natural numbers to the nearest integer, a tie to the even one. -/
def nearest (numerator denominator : Nat) : Nat :=
  let quotient := numerator / denominator
  let twice := 2 * (numerator % denominator)
  if denominator < twice ∨ (twice = denominator ∧ quotient % 2 = 1) then quotient + 1 else quotient

/-- The quotient counted in units of a power of two, as a numerator and a denominator. -/
def inUnits (numerator denominator : Nat) (exponent : Int) : Nat × Nat :=
  if 0 ≤ exponent then (numerator, denominator <<< exponent.toNat)
  else (numerator <<< (-exponent).toNat, denominator)

/-- The exponent of the unit in the last place of the result. -/
def unitExponent (numerator denominator : Nat) : Int :=
  let guess := max leastExponent ((numerator.log2 : Int) - denominator.log2 - (storedBits + 1))
  let (top, bottom) := inUnits numerator denominator guess
  if top / bottom < 2 * leastSignificand then guess else guess + 1

/-- The pattern nearest to a quotient with a positive denominator. -/
def roundQuotient (numerator denominator : Nat) : Nat :=
  let exponent := unitExponent numerator denominator
  let (top, bottom) := inUnits numerator denominator exponent
  min infinity ((exponent - leastExponent).toNat * leastSignificand + nearest top bottom)

/-- An exponent as it is read: once its leading digits reach 65536, the rest of them is passed over. -/
def readExponent (magnitude : Nat) : Nat :=
  if 65536 ≤ magnitude / 10 then readExponent (magnitude / 10) else magnitude
decreasing_by omega

/-- The pattern nearest to a magnitude times a power of ten. Values below `10 ^ -324` are less than
half of the least positive one, and values from `10 ^ 309` on exceed the greatest. -/
def roundDecimal (magnitude : Nat) (exponent : Int) : Nat :=
  if magnitude = 0 then 0
  else
    let exponent := exponent.sign * readExponent exponent.natAbs
    let digits : Int := (Nat.toDigits 10 magnitude).length
    if digits + exponent ≤ -324 then 0
    else if 310 ≤ digits + exponent then infinity
    else if 0 ≤ exponent then roundQuotient (magnitude * Nat.pow 10 exponent.toNat) 1
    else roundQuotient magnitude (Nat.pow 10 (-exponent).toNat)

/-- The 64-bit pattern of the floating-point value nearest to a number. -/
def ofNumber (number : Number) : Nat :=
  roundDecimal number.val.natAbs number.exp + if number.val < 0 then signBit else 0

end Lexing.Number.Binary64
