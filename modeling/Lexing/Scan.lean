import Lexing.Character.Blank
import Lexing.Cursor
import Lexing.Diagnostic
import Lexing.Position
import Lexing.Token

/-! # Scanning

A scan moves a cursor over a text that starts at a position, and reports what is wrong on the way. It
looks at one character at a time and takes the position of each, which it may have to report; only a
comment marker, the characters that give the base of a number, and a symbol are compared as a whole.
Where a position past the last one is needed the scan ends. What it reported by then stays reported. -/

namespace Lexing

/-- A part of a scan of a text that starts at a position. -/
abbrev Scan : Type → Type := ReaderT Nat (StateT Cursor (ExceptT Overflow (StateM Log)))

namespace Scan

/-! ## Looking, passing, reporting -/

/-- The position of the cursor. -/
def position : Scan Nat := do
  MonadExcept.ofExcept (Position.advance (← read) (← get).offset)

/-- The next character and its position, if anything is left. -/
def peek : Scan (Option (Char × Nat)) := do
  match (← get).rest with
  | [] => return none
  | c :: _ => return some (c, ← position)

/-- Passes letters at the head of what is left without looking at them. -/
def pass (letters : List Char) : Scan Unit := modify fun cursor => cursor.pass letters

def report (position : Nat) (fault : Lexeme.Fault) : Scan Unit :=
  modifyThe Log fun log => log.report position fault.message

/-- Takes the next character, if anything is left. -/
def next : Scan (Option (Char × Nat)) := do
  match ← peek with
  | none => return none
  | some (c, position) =>
      pass [c]
      return some (c, position)

/-- Takes the next character if it is of a kind. -/
def nextIf (holds : Char → Bool) : Scan (Option (Char × Nat)) := do
  match ← peek with
  | none => return none
  | some (c, _) => if holds c then next else return none

/-- What a step gives again and again until it gives nothing, behind what was collected before. A step
that passes nothing is the last. -/
def collectAfter (step : Scan (Option α)) (collected : List α) (origin : Nat) (cursor : Cursor)
    (log : Log) : Except Overflow (List α × Cursor) × Log :=
  match step origin cursor log with
  | (.error overflow, log) => (.error overflow, log)
  | (.ok (none, next), log) => (.ok (collected.reverse, next), log)
  | (.ok (some value, next), log) =>
      if next.rest.length < cursor.rest.length then
        collectAfter step (value :: collected) origin next log
      else (.ok (collected.reverse, next), log)
termination_by cursor.rest.length

/-- What a step gives until it gives nothing. -/
def collect (step : Scan (Option α)) : Scan (List α) := collectAfter step []

/-- Takes characters as long as they are of a kind. -/
def takeWhile (holds : Char → Bool) : Scan (List Char) := do
  return (← collect (nextIf holds)).map Prod.fst

/-- The first of some parts that gives something. -/
def firstOf : List (Scan (Option α)) → Scan (Option α)
  | [] => return none
  | part :: others => do
      match ← part with
      | some value => return some value
      | none => firstOf others

/-! ## Comments and words -/

def comment (lexicon : Lexicon) : Scan (Option Lexeme) := do
  match lexicon.markerAt? (← get).rest with
  | none => return none
  | some marker =>
      pass marker
      return some (.comment marker (← takeWhile fun c => c != '\n'))

def word : Scan (Option Lexeme) := do
  match ← nextIf Character.opensWord with
  | none => return none
  | some (first, _) => return some (.word (first :: (← takeWhile Character.continuesWord)))

/-! ## Quoted literals -/

/-- A hexadecimal digit, or else what stands in its place. -/
def hexDigit : Scan (Except (Option Char) Char) := do
  match ← peek with
  | none => return .error none
  | some (c, position) =>
      if (Lexeme.digitValue? c).isNone then
        report position (.unexpected c)
        return .error (some c)
      else
        let _ ← next
        return .ok c

/-- The piece that a backslash and an `x` open. -/
def hexEscape : Scan Lexeme.Piece := do
  match ← hexDigit with
  | .error stop => return .brokenHex none stop
  | .ok high =>
      match ← hexDigit with
      | .error stop => return .brokenHex (some high) stop
      | .ok low => return .hex high low

/-- The piece that a backslash opens, behind the backslash. -/
def escaped : Scan Lexeme.Piece := do
  match ← nextIf fun c => c != '\n' with
  | none => return .dangling
  | some (letter, position) =>
      if letter = 'x' then hexEscape
      else
        if (Lexeme.escapeByte? letter).isNone then report position (.unknownEscape letter)
        return .named letter

/-- The piece that a backslash opens. -/
def escape : Scan Lexeme.Piece := do
  let _ ← next
  escaped

/-- A piece before a quote or the end of the line. -/
def piece (quote : Char) : Scan (Option Lexeme.Piece) := do
  match ← peek with
  | none => return none
  | some (c, _) =>
      if c = quote ∨ c = '\n' then return none
      else if c = '\\' then return some (← escape)
      else
        let _ ← next
        return some (.plain c)

/-- Whether the closing quote of a literal is there. -/
def close (quote : Char) (quotation : Lexeme.Quotation) : Scan Bool := do
  match ← nextIf fun c => c == quote with
  | some _ => return true
  | none =>
      report (← position) (.unclosed quotation)
      return false

/-- Reports a closing quote that stands directly behind the opening one. -/
def reportEmpty : Scan Unit := do
  match ← peek with
  | none => return ()
  | some (c, position) => if c = '\'' then report position .emptyCharacter

/-- Characters behind the first piece of a character literal. The first of them is reported. -/
def extra : Scan (List Char) := do
  match ← nextIf Lexeme.CharacterLiteral.inside with
  | none => return []
  | some (c, position) =>
      report position .severalCharacters
      return c :: (← takeWhile Lexeme.CharacterLiteral.inside)

def character : Scan (Option Lexeme) := do
  match ← nextIf fun c => c == '\'' with
  | none => return none
  | some _ =>
      reportEmpty
      let first ← piece '\''
      let extra ← extra
      return some (.character ⟨first, extra, ← close '\'' .character⟩)

def string : Scan (Option Lexeme) := do
  match ← nextIf fun c => c == '"' with
  | none => return none
  | some _ =>
      let pieces ← collect (piece '"')
      return some (.string ⟨pieces, ← close '"' .string⟩)

/-! ## Numbers -/

/-- A digit or an underscore. A decimal digit that the base does not have is reported. -/
def place (base : Lexeme.Base) : Scan (Option Char) := do
  match ← nextIf base.isPlace with
  | none => return none
  | some (c, position) =>
      if c.isDigit && (base.digit? c).isNone then report position (.foreignDigit c base)
      return some c

/-- A point and the places behind it, in base ten. -/
def fraction (base : Lexeme.Base) : Scan (Option (List Char)) := do
  if base = .decimal then
    match ← nextIf fun c => c == '.' with
    | none => return none
    | some _ => return some (← collect (place base))
  else return none

def sign : Scan (Option Char) := do
  match ← nextIf fun c => c == '-' with
  | some (c, _) => return some c
  | none => return (← nextIf fun c => c == '+').map Prod.fst

/-- An exponent, in base ten. -/
def exponent (base : Lexeme.Base) : Scan (Option Lexeme.Exponent) := do
  if base = .decimal then
    match ← nextIf fun c => c == 'e' || c == 'E' with
    | none => return none
    | some (mark, _) =>
        let sign ← sign
        return some ⟨mark, sign, ← collect (place .decimal)⟩
  else return none

/-- Letters at the end of a number, none of which belong there. -/
def suffix : Scan (List Char) := do
  match ← peek with
  | none => return []
  | some (c, position) =>
      if Character.isAlphabetic c then
        let letters ← takeWhile Character.continuesWord
        report position (.invalidSuffix letters)
        return letters
      else return []

/-- Reports an exponent without digits, unless a suffix stands behind it. -/
def reportExponent (exponent : Option Lexeme.Exponent) (suffix : List Char) : Scan Unit := do
  if suffix.isEmpty && exponent.any fun exponent => !exponent.hasDigits then
    report (← position) .exponentWithoutDigits

/-- A number literal behind what gives its base. -/
def numeral (base : Lexeme.Base) (lead : List Char) : Scan Lexeme.Numeral := do
  let whole ← collect (place base)
  let fraction ← fraction base
  let exponent ← exponent base
  let suffix ← suffix
  reportExponent exponent suffix
  return ⟨base, lead, whole, fraction, exponent, suffix⟩

def number : Scan (Option Lexeme) := do
  match ← peek with
  | none => return none
  | some (first, _) =>
      if first.isDigit then
        let (base, lead) := Lexeme.Base.detect (← get).rest
        pass lead
        return some (.number (← numeral base lead))
      else return none

/-! ## Tokens -/

def symbol (lexicon : Lexicon) : Scan (Option Lexeme) := do
  match lexicon.symbolAt? (← get).rest with
  | none => return none
  | some letters =>
      pass letters
      return some (.symbol letters)

/-- A character that is part of nothing. -/
def invalid : Scan (Option Lexeme) := do
  match ← next with
  | none => return none
  | some (c, position) =>
      report position (.unexpected c)
      return some (.invalid c)

/-- What stands at the cursor, of the kinds of lexemes in turn. -/
def lexeme (lexicon : Lexicon) : Scan (Option Lexeme) :=
  firstOf [comment lexicon, word, character, string, number, symbol lexicon, invalid]

/-- The next token behind blank characters. A lexeme that takes nothing would end the scan of a text. -/
def token (lexicon : Lexicon) : Scan (Option Token) := do
  let _ ← takeWhile Character.isBlank
  let start := (← get).offset
  match ← lexeme lexicon with
  | none => return none
  | some lexeme =>
      if (← get).offset = start then return none
      else
        let position ← MonadExcept.ofExcept (Position.advance (← read) start)
        return some ⟨lexeme.kind lexicon, String.ofList lexeme.text, position⟩

/-- The tokens of all that is left, without comments unless the lexicon keeps them. -/
def tokens (lexicon : Lexicon) : Scan (List Token) := do
  return (← collect (token lexicon)).filter fun token =>
    token.kind != .comment || lexicon.keepComments

end Scan

end Lexing
