import Lexing.Text.Width

/-! # Cursors

A cursor is what is left of a text and the offset at which that starts. It goes forward by passing
letters at the head of what is left. -/

namespace Lexing

/-- What is left of a text, and the offset at which it starts. -/
structure Cursor where
  offset : Nat
  rest : List Char
  deriving DecidableEq, Repr

namespace Cursor

/-- The cursor at the start of a text. -/
def start (text : List Char) : Cursor := ⟨0, text⟩

/-- The cursor at the end of a text. -/
def finish (text : List Char) : Cursor := ⟨Text.width text, []⟩

/-- The cursor behind letters at the head of what is left. -/
def pass (cursor : Cursor) (letters : List Char) : Cursor :=
  ⟨cursor.offset + Text.width letters, cursor.rest.drop letters.length⟩

@[simp] theorem pass_nil (cursor : Cursor) : cursor.pass [] = cursor := rfl

theorem pass_append (cursor : Cursor) (early late : List Char) :
    cursor.pass (early ++ late) = (cursor.pass early).pass late := by
  simp only [pass, Text.width_append, Nat.add_assoc, List.length_append, List.drop_drop]

/-- What heads the rest is passed, and what follows it is left. -/
theorem pass_of_append {cursor : Cursor} {letters after : List Char}
    (whole : cursor.rest = letters ++ after) :
    cursor.pass letters = ⟨cursor.offset + Text.width letters, after⟩ := by
  rw [pass, whole, List.drop_left]

end Cursor

end Lexing
