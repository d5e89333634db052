import Lexing.Character.Ranges

/-! # Blank characters

The characters that separate lexemes and belong to none: the property `White_Space`, unchanged since
Unicode 6.3. -/

namespace Lexing.Character

/-- Ranges of the property `White_Space`. -/
def blankRanges : List (Nat × Nat) :=
  [
    (0x9, 0xD), (0x20, 0x20), (0x85, 0x85), (0xA0, 0xA0), (0x1680, 0x1680), (0x2000, 0x200A),
    (0x2028, 0x2029), (0x202F, 0x202F), (0x205F, 0x205F), (0x3000, 0x3000)]

/-- Spaces, tabs, line and paragraph separators. -/
def isBlank (c : Char) : Bool := covers blankRanges c.toNat

end Lexing.Character
