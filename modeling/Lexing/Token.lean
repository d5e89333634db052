import Lexing.Lexeme.Basic
import Lexing.Text.Escape

/-! # Tokens

A token is what a parser receives of a lexeme: its kind with the value it carries, the raw text, and
its position. -/

namespace Lexing

/-- What a token is, with the value it carries. -/
inductive TokenKind where
  | invalid (c : Char)
  | comment
  | identifier
  | keyword
  | symbol
  | number (value : Number)
  | string (bytes : List UInt8)
  | character (value : Char)
  deriving DecidableEq, Repr

/-- A unit of a source text, as a parser receives it. -/
structure Token where
  kind : TokenKind
  text : String
  position : Nat
  deriving DecidableEq, Repr

/-- The name of a kind in listings. -/
def TokenKind.name : TokenKind → String
  | .invalid _ => "INVALID"
  | .comment => "COMMENT"
  | .identifier => "IDENT"
  | .keyword => "KEYWORD"
  | .symbol => "SYMBOL"
  | .number _ => "NUMBER_LIT"
  | .string _ => "STRING_LIT"
  | .character _ => "CHAR_LIT"

/-- The kind and the raw text between double quotes. -/
def Token.display (token : Token) : String :=
  token.kind.name ++ " " ++ Text.Escape.display token.text

/-- A word is a keyword if the lexicon says so. -/
def Lexicon.wordKind (lexicon : Lexicon) (word : String) : TokenKind :=
  if lexicon.keywords.contains word then .keyword else .identifier

/-- The kind of a lexeme under a lexicon. -/
def Lexeme.kind (lexicon : Lexicon) : Lexeme → TokenKind
  | .comment _ _ => .comment
  | .word letters => lexicon.wordKind (String.ofList letters)
  | .character literal => .character literal.value
  | .string literal => .string literal.bytes
  | .number numeral => .number numeral.value
  | .symbol _ => .symbol
  | .invalid c => .invalid c

end Lexing
