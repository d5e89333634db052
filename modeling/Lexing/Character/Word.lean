import Lexing.Character.Alphabetic
import Lexing.Character.Numeric

/-! # Characters of words

A word opens with an alphabetic character or an underscore and goes on with those and numerics. -/

namespace Lexing.Character

def isAlphanumeric (c : Char) : Bool := isAlphabetic c || isNumeric c

/-- May open a word. -/
def opensWord (c : Char) : Bool := isAlphabetic c || c == '_'

/-- May continue a word. -/
def continuesWord (c : Char) : Bool := isAlphanumeric c || c == '_'

theorem continuesWord_of_opensWord {c : Char} (opens : opensWord c = true) :
    continuesWord c = true := by
  simp only [opensWord, continuesWord, isAlphanumeric, Bool.or_eq_true] at *
  exact opens.imp Or.inl id

end Lexing.Character
