import Lexing.Lexeme.Base

/-! # Lexical faults

What can be wrong with a lexeme, and the wording of each fault. A `Finding` is a fault with the offset
it is reported at. -/

namespace Lexing.Lexeme

/-- The two kinds of quoted literal. -/
inductive Quotation where
  | character
  | string
  deriving DecidableEq, Repr

/-- Something wrong with a lexeme. -/
inductive Fault where
  | unexpected (c : Char)
  | emptyCharacter
  | severalCharacters
  | unclosed (quotation : Quotation)
  | unknownEscape (letter : Char)
  | foreignDigit (digit : Char) (base : Base)
  | exponentWithoutDigits
  | invalidSuffix (suffix : List Char)
  deriving DecidableEq, Repr

def Quotation.description : Quotation → String
  | .character => "character"
  | .string => "string"

namespace Fault

/-- The wording of a fault. -/
def message : Fault → String
  | .unexpected c => "Unexpected char '" ++ c.toString ++ "'"
  | .emptyCharacter => "Empty character literal"
  | .severalCharacters => "Character literal may only contain one code point"
  | .unclosed quotation => "Missing closing quote in " ++ quotation.description ++ " literal"
  | .unknownEscape letter => "Unknown escape sequence '\\" ++ letter.toString ++ "'"
  | .foreignDigit digit base =>
      "Cannot use '" ++ digit.toString ++ "' in " ++ toString base.radix ++ "-base integer literal"
  | .exponentWithoutDigits => "The exponent has no digits"
  | .invalidSuffix suffix =>
      "Invalid suffix \"" ++ String.ofList suffix ++ "\" for number literal"

end Fault

/-- A fault and the offset it is reported at. -/
structure Finding where
  offset : Nat
  fault : Fault
  deriving DecidableEq, Repr

/-- The same finding in a text that starts further on. -/
def Finding.shift (start : Nat) (finding : Finding) : Finding :=
  { finding with offset := start + finding.offset }

end Lexing.Lexeme
