import Lexing.Lexeme.StringLiteral

/-! # Texts in pieces

`PiecesOf` says how the text behind an opening double quote falls into pieces, one constructor for
each way in which a piece begins, and what the pieces leave. It holds of exactly one list of pieces,
the one that is read. -/

namespace Lexing.Lexeme

/-- Nothing follows, or a given quote, or the end of the line. -/
def StopsAt (quote : Char) (after : List Char) : Prop :=
  ∀ c, after.head? = some c → c = quote ∨ c = '\n'

/-- The pieces at the head of a text that follows an opening double quote, and what they leave. -/
inductive PiecesOf : List Char → List Piece → List Char → Prop where
  | stop {after : List Char} (stops : StopsAt '"' after) : PiecesOf after [] after
  | plain {c : Char} {rest after : List Char} {pieces : List Piece}
      (inside : ¬ (c = '"' ∨ c = '\n')) (notEscape : c ≠ '\\')
      (behind : PiecesOf rest pieces after) :
      PiecesOf (c :: rest) (.plain c :: pieces) after
  | escape {rest after : List Char} {pieces : List Piece}
      (behind : PiecesOf (Piece.readEscape rest).2 pieces after) :
      PiecesOf ('\\' :: rest) ((Piece.readEscape rest).1 :: pieces) after

namespace PiecesOf

/-- Every text falls into pieces. -/
theorem exists_after : (text : List Char) → ∃ after, PiecesOf text (pieces text) after
  | [] => ⟨[], by
      rw [pieces_nil]
      exact .stop fun _ impossible => by cases impossible⟩
  | first :: rest => by
      rw [pieces_cons]
      split
      · rename_i stops
        refine ⟨first :: rest, .stop fun c head => ?_⟩
        cases head
        exact stops
      · rename_i inside
        split
        · rename_i opens
          obtain ⟨after, behind⟩ := exists_after (Piece.readEscape rest).2
          rw [opens]
          exact ⟨after, .escape behind⟩
        · rename_i notEscape
          obtain ⟨after, behind⟩ := exists_after rest
          exact ⟨after, .plain inside notEscape behind⟩
termination_by text => text.length
decreasing_by
  all_goals first
    | exact Nat.lt_succ_self _
    | exact Nat.lt_succ_of_le (Piece.length_readEscape_le rest)

variable {text after : List Char} {found : List Piece}

/-- The pieces and what they leave make up the text. -/
theorem append (fallen : PiecesOf text found after) : found.flatMap Piece.text ++ after = text := by
  induction fallen with
  | stop stops => rfl
  | plain inside notEscape behind ih =>
      rw [List.flatMap_cons, List.append_assoc, ih]
      rfl
  | @escape rest after pieces behind ih =>
      rw [List.flatMap_cons, List.append_assoc, ih, Piece.text_readEscape]

theorem stopsAt (fallen : PiecesOf text found after) : StopsAt '"' after := by
  induction fallen with
  | stop stops => exact stops
  | plain inside notEscape behind ih => exact ih
  | escape behind ih => exact ih

/-- A text falls into no pieces but those that are read. -/
theorem pieces_eq (fallen : PiecesOf text found after) : pieces text = found := by
  induction fallen with
  | @stop after stops =>
      cases after with
      | nil => exact pieces_nil
      | cons first rest => rw [pieces_cons, if_pos (stops first rfl)]
  | plain inside notEscape behind ih => rw [pieces_cons, if_neg inside, if_neg notEscape, ih]
  | escape behind ih => rw [pieces_cons, if_neg (by decide), if_pos rfl, ih]

/-- A literal holds the pieces behind its opening quote, and is closed if they leave a quote. -/
theorem read_eq (fallen : PiecesOf text found after) :
    StringLiteral.read text = ⟨found, after.head? == some '"'⟩ := by
  have left : text.drop (found.flatMap Piece.text).length = after := by
    rw [← fallen.append, List.drop_left]
  simp only [StringLiteral.read, fallen.pieces_eq, left]

end PiecesOf

end Lexing.Lexeme
