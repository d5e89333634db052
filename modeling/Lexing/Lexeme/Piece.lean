import Lexing.Lexeme.Fault
import Lexing.Text.Width

/-! # Pieces of quoted literals

Between quotes a text is a sequence of pieces: characters that stand for themselves, and escapes. An
escape need not be well formed; what is wrong with it is a finding, and it then denotes nothing. -/

namespace Lexing.Lexeme

/-- One piece of a quoted literal. -/
inductive Piece where
  /-- A character that stands for itself. -/
  | plain (c : Char)
  /-- A backslash and one character other than `x`. -/
  | named (letter : Char)
  /-- A backslash, an `x`, and two hexadecimal digits. -/
  | hex (high low : Char)
  /-- A backslash, an `x`, at most one digit, and then something else, which is not taken. -/
  | brokenHex (high : Option Char) (stop : Option Char)
  /-- A backslash before the end of the line or of the text. -/
  | dangling
  deriving DecidableEq, Repr

/-- The byte that a letter after a backslash denotes. -/
def escapeByte? : Char → Option UInt8
  | 'n' => some 0x0A
  | 'r' => some 0x0D
  | 't' => some 0x09
  | '\\' => some 0x5C
  | '0' => some 0x00
  | '\'' => some 0x27
  | '"' => some 0x22
  | _ => none

namespace Piece

/-- The characters of a piece. -/
def text : Piece → List Char
  | .plain c => [c]
  | .named letter => ['\\', letter]
  | .hex high low => ['\\', 'x', high, low]
  | .brokenHex high _ => '\\' :: 'x' :: high.toList
  | .dangling => ['\\']

theorem text_ne_nil (piece : Piece) : piece.text ≠ [] := by
  cases piece <;> simp [text]

/-- The byte that an escape denotes; a plain character is no escape. -/
def byte? : Piece → Option UInt8
  | .named letter => escapeByte? letter
  | .hex high low =>
      some (UInt8.ofNat (16 * (digitValue? high).getD 0 + (digitValue? low).getD 0))
  | _ => none

/-- The bytes that a piece contributes to a string. -/
def bytes : Piece → List UInt8
  | .plain c => String.utf8EncodeChar c
  | piece => piece.byte?.toList

/-- The character that a piece denotes alone between single quotes; NUL if it denotes nothing. -/
def character : Piece → Char
  | .plain c => c
  | piece => (piece.byte?.map fun byte => Char.ofNat byte.toNat).getD '\x00'

/-- What is wrong with a piece, by offset from its start. -/
def findings : Piece → List Finding
  | .named letter =>
      if (escapeByte? letter).isNone then [⟨1, .unknownEscape letter⟩] else []
  | .brokenHex high (some stop) => [⟨2 + Text.width high.toList, .unexpected stop⟩]
  | _ => []

/-! ## Reading -/

/-- The piece that a backslash and an `x` open; up to two digits belong to it. -/
def readHex : List Char → Piece × List Char
  | [] => (.brokenHex none none, [])
  | high :: rest =>
      if (digitValue? high).isNone then (.brokenHex none (some high), high :: rest)
      else
        match rest with
        | [] => (.brokenHex (some high) none, [])
        | low :: others =>
            if (digitValue? low).isNone then (.brokenHex (some high) (some low), low :: others)
            else (.hex high low, others)

/-- The piece that a backslash opens. -/
def readEscape : List Char → Piece × List Char
  | [] => (.dangling, [])
  | letter :: rest =>
      if letter = '\n' then (.dangling, letter :: rest)
      else if letter = 'x' then readHex rest
      else (.named letter, rest)

theorem text_readHex (text : List Char) :
    (readHex text).1.text ++ (readHex text).2 = '\\' :: 'x' :: text := by
  unfold readHex
  split
  · rfl
  · split
    · rfl
    · split
      · rfl
      · split <;> rfl

/-- An escape and what follows it make up the text after the backslash. -/
theorem text_readEscape (text : List Char) :
    (readEscape text).1.text ++ (readEscape text).2 = '\\' :: text := by
  unfold readEscape
  split
  · rfl
  · split
    · rfl
    · split
      · rename_i letter rest _ isHex
        rw [isHex]
        exact text_readHex rest
      · rfl

theorem length_readEscape_le (text : List Char) : (readEscape text).2.length ≤ text.length := by
  have whole := congrArg List.length (text_readEscape text)
  have positive := List.length_pos_iff.mpr (readEscape text).1.text_ne_nil
  simp only [List.length_append, List.length_cons] at whole
  omega

end Piece

/-- The closing quote of a literal, if it is there. -/
def closing (quote : Char) (closed : Bool) : List Char := if closed then [quote] else []

/-- A quote at the head of the rest closes a literal. -/
theorem closing_isPrefix (quote : Char) (rest : List Char) :
    closing quote (rest.head? == some quote) <+: rest := by
  cases rest with
  | nil => exact List.nil_prefix
  | cons first more =>
      by_cases same : first = quote <;> simp [closing, same]

/-- Findings of consecutive pieces, the first of which stands at an offset, after those found. -/
def pieceFindings (offset : Nat) (found : List Finding) : List Piece → List Finding
  | [] => found.reverse
  | piece :: rest =>
      pieceFindings (offset + Text.width piece.text)
        ((piece.findings.map (Finding.shift offset)).reverse ++ found) rest

theorem pieceFindings_append (offset : Nat) (found : List Finding) (pieces : List Piece) :
    pieceFindings offset found pieces = found.reverse ++ pieceFindings offset [] pieces := by
  induction pieces generalizing offset found with
  | nil => simp [pieceFindings]
  | cons piece rest ih =>
      rw [pieceFindings, ih, pieceFindings, ih _ ((_ : List Finding) ++ [])]
      simp

end Lexing.Lexeme
