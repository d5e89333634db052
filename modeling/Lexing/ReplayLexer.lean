import Lexing.Lexer

/-! # The same tokens on every call -/

namespace Lexing

/-- Tokens to return again and again. -/
structure ReplayLexer (τ : Type) where
  tokens : List τ
  deriving DecidableEq, Repr

/-- Returns the tokens and changes nothing. -/
def ReplayLexer.lex : Lexer (ReplayLexer τ) δ τ :=
  fun lexer driver => (.ok lexer.tokens, lexer, driver)

end Lexing
