import Lexing.Lexeme.Piece

/-! # Character literals

A character literal runs from a single quote to the next one, and ends without one at the end of the
line or of the text. Its first piece is its value; escapes count only there, and whatever stands
between it and the closing quote is one character too many. -/

namespace Lexing.Lexeme

/-- A character literal: its first piece, what else it holds, and whether its closing quote is there. -/
structure CharacterLiteral where
  first : Option Piece
  extra : List Char
  closed : Bool
  deriving DecidableEq, Repr

namespace CharacterLiteral

/-- The characters of the first piece. -/
def firstText : Option Piece → List Char
  | none => []
  | some piece => piece.text

/-- The characters between the quotes. -/
def body (literal : CharacterLiteral) : List Char := firstText literal.first ++ literal.extra

/-- The characters of a literal. -/
def text (literal : CharacterLiteral) : List Char :=
  '\'' :: (literal.body ++ closing '\'' literal.closed)

/-- The first piece of a text that follows an opening single quote. -/
def splitFirst : List Char → Option Piece × List Char
  | [] => (none, [])
  | first :: rest =>
      if first = '\'' ∨ first = '\n' then (none, first :: rest)
      else if first = '\\' then
        (some (Piece.readEscape rest).1, (Piece.readEscape rest).2)
      else (some (.plain first), rest)

/-- What may stand before the closing quote. -/
def inside (c : Char) : Bool := c != '\'' && c != '\n'

/-- The literal at the head of a text, the opening quote already passed. -/
def read (text : List Char) : CharacterLiteral :=
  let split := splitFirst text
  { first := split.1
    extra := split.2.takeWhile inside
    closed := (split.2.dropWhile inside).head? == some '\'' }

/-- The character that a literal denotes; NUL if it denotes none. -/
def value (literal : CharacterLiteral) : Char :=
  match literal.first with
  | none => '\x00'
  | some piece => piece.character

/-- What is wrong with a literal, by offset from its start. -/
def findings (literal : CharacterLiteral) : List Finding :=
  (if literal.first.isNone && literal.closed then [⟨1, .emptyCharacter⟩] else []) ++
  (match literal.first with
    | none => []
    | some piece => piece.findings.map (Finding.shift 1)) ++
  (if literal.extra.isEmpty then []
    else [⟨1 + Text.width (firstText literal.first), .severalCharacters⟩]) ++
  (if literal.closed then [] else [⟨1 + Text.width literal.body, .unclosed .character⟩])

/-- The first piece and what follows it make up the text. -/
theorem firstText_splitFirst (text : List Char) :
    firstText (splitFirst text).1 ++ (splitFirst text).2 = text := by
  cases text with
  | nil => rfl
  | cons first rest =>
      simp only [splitFirst]
      split
      · rfl
      · split
        · rename_i opens
          rw [opens]
          exact Piece.text_readEscape rest
        · rfl

theorem read_text_isPrefix (text : List Char) : (read text).text <+: '\'' :: text := by
  obtain ⟨more, moreEq⟩ := closing_isPrefix '\'' ((splitFirst text).2.dropWhile inside)
  refine ⟨more, ?_⟩
  simp only [CharacterLiteral.text, read, body, List.cons_append, List.append_assoc]
  rw [moreEq, List.takeWhile_append_dropWhile, firstText_splitFirst]

end CharacterLiteral

end Lexing.Lexeme
