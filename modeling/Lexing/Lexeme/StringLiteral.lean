import Lexing.Lexeme.Piece

/-! # String literals

A string literal runs from a double quote to the next one that no escape takes, and ends without one
at the end of the line or of the text. It denotes bytes. -/

namespace Lexing.Lexeme

/-- The pieces before the closing quote or the end of the line, after those already cut off. -/
def piecesAfter (done : List Piece) : List Char → List Piece
  | [] => done.reverse
  | first :: rest =>
      if first = '"' ∨ first = '\n' then done.reverse
      else if first = '\\' then
        piecesAfter ((Piece.readEscape rest).1 :: done) (Piece.readEscape rest).2
      else piecesAfter (.plain first :: done) rest
termination_by text => text.length
decreasing_by
  · exact Nat.lt_succ_of_le (Piece.length_readEscape_le rest)
  · exact Nat.lt_succ_self _

/-- The pieces at the head of a text that follows an opening double quote. -/
def pieces (text : List Char) : List Piece := piecesAfter [] text

theorem piecesAfter_eq (done : List Piece) :
    (text : List Char) → piecesAfter done text = done.reverse ++ pieces text
  | [] => by simp [piecesAfter, pieces]
  | first :: rest => by
      rw [pieces, piecesAfter, piecesAfter]
      split
      · simp
      · split
        · rw [piecesAfter_eq (_ :: done), piecesAfter_eq [_]]
          simp
        · rw [piecesAfter_eq (_ :: done), piecesAfter_eq [_]]
          simp
termination_by text => text.length
decreasing_by
  all_goals first
    | exact Nat.lt_succ_self _
    | exact Nat.lt_succ_of_le (Piece.length_readEscape_le rest)

@[simp] theorem pieces_nil : pieces [] = [] := by simp [pieces, piecesAfter]

/-- A quote or a line end stops the pieces, a backslash opens an escape, and any other character is a
piece of its own. -/
theorem pieces_cons (first : Char) (rest : List Char) :
    pieces (first :: rest) =
      if first = '"' ∨ first = '\n' then []
      else if first = '\\' then
        (Piece.readEscape rest).1 :: pieces (Piece.readEscape rest).2
      else .plain first :: pieces rest := by
  rw [pieces, piecesAfter, piecesAfter_eq [_], piecesAfter_eq [_]]
  simp

/-- The pieces are cut off the head of the text, and nothing of it is changed. -/
theorem pieces_isPrefix : (text : List Char) → (pieces text).flatMap Piece.text <+: text
  | [] => by simp
  | first :: rest => by
      rw [pieces_cons]
      split
      · exact List.nil_prefix
      · split
        · rename_i opens
          obtain ⟨after, restEq⟩ := pieces_isPrefix (Piece.readEscape rest).2
          refine ⟨after, ?_⟩
          rw [List.flatMap_cons, List.append_assoc, restEq, opens]
          exact Piece.text_readEscape rest
        · rw [List.flatMap_cons]
          exact (List.prefix_cons_inj _).mpr (pieces_isPrefix rest)
termination_by text => text.length
decreasing_by
  all_goals first
    | exact Nat.lt_succ_self _
    | exact Nat.lt_succ_of_le (Piece.length_readEscape_le rest)

/-- A string literal: its pieces, and whether its closing quote is there. -/
structure StringLiteral where
  pieces : List Piece
  closed : Bool
  deriving DecidableEq, Repr

namespace StringLiteral

/-- The characters between the quotes. -/
def body (literal : StringLiteral) : List Char := literal.pieces.flatMap Piece.text

/-- The characters of a literal. -/
def text (literal : StringLiteral) : List Char :=
  '"' :: (literal.body ++ closing '"' literal.closed)

/-- The literal at the head of a text, the opening quote already passed. -/
def read (text : List Char) : StringLiteral :=
  let found := Lexeme.pieces text
  { pieces := found
    closed := (text.drop (found.flatMap Piece.text).length).head? == some '"' }

/-- The bytes that a literal denotes. -/
def bytes (literal : StringLiteral) : List UInt8 := literal.pieces.flatMap Piece.bytes

/-- What is wrong with a literal, by offset from its start. -/
def findings (literal : StringLiteral) : List Finding :=
  pieceFindings 1 [] literal.pieces ++
    if literal.closed then [] else [⟨1 + Text.width literal.body, .unclosed .string⟩]

theorem read_text_isPrefix (text : List Char) : (read text).text <+: '"' :: text := by
  obtain ⟨rest, restEq⟩ := pieces_isPrefix text
  have after : text.drop ((Lexeme.pieces text).flatMap Piece.text).length = rest := by
    simpa using (congrArg (List.drop ((Lexeme.pieces text).flatMap Piece.text).length) restEq).symm
  obtain ⟨more, moreEq⟩ := closing_isPrefix '"' rest
  refine ⟨more, ?_⟩
  simp only [StringLiteral.text, read, body, after, List.cons_append, List.append_assoc]
  rw [moreEq, restEq]

end StringLiteral

end Lexing.Lexeme
