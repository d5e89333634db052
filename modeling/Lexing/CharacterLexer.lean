import Lexing.Character.Blank
import Lexing.Lexer
import Lexing.Text.Width

/-! # One token per character

`CharacterLexer` returns every character of its input once, blank ones only if it keeps them, and can
be set back to the start. It reports nothing. -/

namespace Lexing

/-- An input, and how many bytes of it were gone through. -/
structure CharacterLexer where
  input : String
  cursor : Nat
  keepBlanks : Bool
  deriving DecidableEq, Repr

namespace CharacterLexer

def ofText (text : String) (keepBlanks : Bool) : CharacterLexer := ⟨text, 0, keepBlanks⟩

def reset (lexer : CharacterLexer) : CharacterLexer := { lexer with cursor := 0 }

/-- The lexer after a call. -/
def finished (lexer : CharacterLexer) : CharacterLexer :=
  { lexer with cursor := lexer.input.utf8ByteSize }

def isExhausted (lexer : CharacterLexer) : Bool := decide (lexer.input.utf8ByteSize ≤ lexer.cursor)

/-- One token for each character, or for each that is not blank. -/
def tokens (keepBlanks : Bool) (characters : List Char) : List String :=
  (characters.filter fun c => keepBlanks || !Character.isBlank c).map Char.toString

/-- Returns all that is behind the cursor, which has to stand between two characters. -/
def lex : Lexer CharacterLexer δ String := fun lexer driver =>
  match Text.dropWidth? lexer.cursor lexer.input.toList with
  | none => (.error .boundary, lexer, driver)
  | some rest => (.ok (tokens lexer.keepBlanks rest), lexer.finished, driver)

theorem lex_ofText (text : String) (keepBlanks : Bool) (driver : δ) :
    lex (ofText text keepBlanks) driver =
      (.ok (tokens keepBlanks text.toList), (ofText text keepBlanks).finished, driver) := by
  rw [lex, ofText, Text.dropWidth?_zero]

end CharacterLexer

end Lexing
