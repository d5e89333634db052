import Lexing.Lexer
import Lexing.Scan
import Lexing.Source.Registry

/-! # The scanner

A scanner holds what is left of one file. A call scans all of it: the tokens are returned, the faults
are reported, and nothing is left. If a position past the last one is needed the call overflows; the
scanner then stays where it was, and what had been reported by then stays reported. -/

namespace Lexing

/-- What is left of a file, and where it starts. -/
structure Scanner where
  origin : Nat
  passed : Nat
  rest : List Char
  lexicon : Lexicon
  deriving DecidableEq, Repr

namespace Scanner

/-- A scanner at the start of a file. -/
def ofFile (file : Source.File) (lexicon : Lexicon) : Scanner where
  origin := file.offset
  passed := 0
  rest := file.text.toList
  lexicon := lexicon

/-- Registers what was read from a path, with a scanner at the start of it. -/
def load (registry : Source.Registry) (path : String) (contents : Except Source.ReadFailure String)
    (lexicon : Lexicon) : Except LexFailure Scanner × Source.Registry :=
  match registry.load path contents with
  | (.ok file, registry) => (.ok (ofFile file lexicon), registry)
  | (.error cause, registry) => (.error (.unreadable path cause), registry)

/-- Whether nothing but blank characters is left. -/
def isExhausted (scanner : Scanner) : Bool := scanner.rest.all Character.isBlank

/-- The position of the first character that is left. -/
def position (scanner : Scanner) : Nat := scanner.origin + scanner.passed

/-- Scans all that is left. -/
def lex : Lexer Scanner Log Token := fun scanner log =>
  match Scan.tokens scanner.lexicon scanner.position (.start scanner.rest) log with
  | (.ok (tokens, cursor), log) =>
      (.ok tokens, { scanner with passed := scanner.passed + cursor.offset, rest := cursor.rest }, log)
  | (.error overflow, log) => (.error overflow, scanner, log)

end Scanner

end Lexing
