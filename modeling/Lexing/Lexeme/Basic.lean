import Lexing.Lexeme.CharacterLiteral
import Lexing.Lexeme.Numeral
import Lexing.Lexeme.StringLiteral
import Lexing.Lexicon

/-! # Lexemes

A lexeme is one unit of a text together with all that was seen of it. `read` decides what stands at
the head of a text: a comment, then a word, a quoted literal, a number, a symbol, and failing all of
these a single character that is part of nothing. Its text is never empty and always heads what was
read. -/

namespace Lexing

/-- One unit of a text. -/
inductive Lexeme where
  | comment (marker body : List Char)
  | word (letters : List Char)
  | character (literal : Lexeme.CharacterLiteral)
  | string (literal : Lexeme.StringLiteral)
  | number (numeral : Lexeme.Numeral)
  | symbol (letters : List Char)
  | invalid (c : Char)
  deriving DecidableEq, Repr

namespace Lexeme

/-- The characters of a lexeme. -/
def text : Lexeme → List Char
  | .comment marker body => marker ++ body
  | .word letters => letters
  | .character literal => literal.text
  | .string literal => literal.text
  | .number numeral => numeral.text
  | .symbol letters => letters
  | .invalid c => [c]

/-- What is wrong with a lexeme, by offset from its start. -/
def findings : Lexeme → List Finding
  | .character literal => literal.findings
  | .string literal => literal.findings
  | .number numeral => numeral.findings
  | .invalid c => [⟨0, .unexpected c⟩]
  | _ => []

/-- Everything up to the end of the line. -/
def restOfLine (text : List Char) : List Char := text.takeWhile fun c => c != '\n'

/-- The lexeme at the head of a text. -/
def read (lexicon : Lexicon) (first : Char) (rest : List Char) : Lexeme :=
  match lexicon.markerAt? (first :: rest) with
  | some marker => .comment marker (restOfLine ((first :: rest).drop marker.length))
  | none =>
      if Character.opensWord first then .word (first :: rest.takeWhile Character.continuesWord)
      else if first = '\'' then .character (CharacterLiteral.read rest)
      else if first = '"' then .string (StringLiteral.read rest)
      else if first.isDigit then .number (Numeral.read (first :: rest))
      else
        match lexicon.symbolAt? (first :: rest) with
        | some letters => .symbol letters
        | none => .invalid first

theorem read_text_isPrefix (lexicon : Lexicon) (first : Char) (rest : List Char) :
    (read lexicon first rest).text <+: first :: rest := by
  unfold read
  split
  · rename_i marker found
    obtain ⟨after, whole⟩ := (Lexicon.markerAt?_some found).2
    rw [← whole, List.drop_left]
    exact List.prefix_append_right_inj _ |>.mpr (List.takeWhile_prefix _)
  · split
    · exact (List.prefix_cons_inj _).mpr (List.takeWhile_prefix _)
    · split
      · rename_i opens
        rw [opens]
        exact CharacterLiteral.read_text_isPrefix rest
      · split
        · rename_i opens
          rw [opens]
          exact StringLiteral.read_text_isPrefix rest
        · split
          · exact Numeral.read_text_isPrefix _
          · split
            · rename_i letters found
              exact (Lexicon.symbolAt?_some found).2
            · exact (List.prefix_cons_inj _).mpr List.nil_prefix

theorem read_text_ne_nil (lexicon : Lexicon) (first : Char) (rest : List Char) :
    (read lexicon first rest).text ≠ [] := by
  unfold read
  split
  · rename_i marker found
    intro empty
    exact (Lexicon.markerAt?_some found).1 (List.append_eq_nil_iff.mp empty).1
  · split
    · exact List.cons_ne_nil _ _
    · split
      · exact List.cons_ne_nil _ _
      · split
        · exact List.cons_ne_nil _ _
        · split
          · rename_i digit
            exact Numeral.read_text_ne_nil digit rest
          · split
            · rename_i letters found
              exact (Lexicon.symbolAt?_some found).1
            · exact List.cons_ne_nil _ _

end Lexeme

end Lexing
