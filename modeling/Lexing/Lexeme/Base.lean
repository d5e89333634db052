/-! # Number bases

A number literal is written in one of four bases, told from its first characters. A zero before
another digit makes a literal octal. -/

namespace Lexing.Lexeme

/-- The base in which a number literal is written. -/
inductive Base where
  | binary
  | octal
  | decimal
  | hexadecimal
  deriving DecidableEq, Repr

/-- The value of an ASCII digit or of a hexadecimal letter of either case. -/
def digitValue? (c : Char) : Option Nat :=
  if '0' ≤ c ∧ c ≤ '9' then some (c.toNat - '0'.toNat)
  else if 'a' ≤ c ∧ c ≤ 'f' then some (c.toNat - 'a'.toNat + 10)
  else if 'A' ≤ c ∧ c ≤ 'F' then some (c.toNat - 'A'.toNat + 10)
  else none

namespace Base

def radix : Base → Nat
  | .binary => 2
  | .octal => 8
  | .decimal => 10
  | .hexadecimal => 16

/-- The value of a digit of the base. -/
def digit? (base : Base) (c : Char) : Option Nat :=
  (digitValue? c).filter fun value => decide (value < base.radix)

/-- What may stand among the digits: digits of the base, underscores, and decimal digits, which are
faults if the base does not have them. -/
def isPlace (base : Base) (c : Char) : Bool :=
  c == '_' || (base.digit? c).isSome || c.isDigit

/-- The base of a literal and the characters that give it. -/
def detect : List Char → Base × List Char
  | '0' :: 'x' :: _ => (.hexadecimal, ['0', 'x'])
  | '0' :: 'b' :: _ => (.binary, ['0', 'b'])
  | '0' :: 'o' :: _ => (.octal, ['0', 'o'])
  | '0' :: next :: _ => if next.isDigit then (.octal, ['0']) else (.decimal, [])
  | _ => (.decimal, [])

/-- The characters that give the base head the literal. -/
theorem detect_isPrefix (text : List Char) : (detect text).2 <+: text := by
  unfold detect
  split
  · exact ⟨_, rfl⟩
  · exact ⟨_, rfl⟩
  · exact ⟨_, rfl⟩
  · split
    · exact ⟨_, rfl⟩
    · exact List.nil_prefix
  · exact List.nil_prefix

end Base

/-- The natural number that digits of a base write, places without a value passed over. -/
def Base.value (base : Base) (places : List Char) : Nat :=
  (places.filterMap base.digit?).foldl (fun total digit => total * base.radix + digit) 0

end Lexing.Lexeme
