import Lexing.Character.Blank
import Lexing.Token

/-! # Reading a text

A reading cuts a text into segments, each a lexeme with the offset it starts at, and the blank
characters between them. It says nothing about positions; how far a scan of the text looks is told by
its extent, since a position is needed for every character that is looked at. A scan comes to the
reading of its text, as `Scan.tokens_start` says, so what is proved of readings holds of scans.

Not every character is looked at on its own: a comment marker, the characters that give the base of a
number, and a symbol are compared as a whole, which takes the position of their first character only.
-/

namespace Lexing

/-- A lexeme, where it starts, and whether anything follows it. -/
structure Segment where
  start : Nat
  lexeme : Lexeme
  followed : Bool
  deriving DecidableEq, Repr

namespace Lexeme

/-- The offset after that of the last character of a lexeme that is looked at on its own. -/
def seen : Lexeme → Nat
  | .comment marker body => if body.isEmpty then 1 else Text.lastOffset (marker ++ body) + 1
  | .symbol _ => 1
  | .number numeral =>
      if !numeral.lead.isEmpty && numeral.text.length == numeral.lead.length then 1
      else Text.lastOffset numeral.text + 1
  | lexeme => Text.lastOffset lexeme.text + 1

end Lexeme

namespace Segment

/-- Offset of the first byte after a segment. -/
def finish (segment : Segment) : Nat := segment.start + Text.width segment.lexeme.text

/-- What is wrong with a segment, by offset in the text. -/
def findings (segment : Segment) : List Lexeme.Finding :=
  segment.lexeme.findings.map (Lexeme.Finding.shift segment.start)

/-- The offset after the last one looked at when a finding is made. A suffix is reported once its end
is known; every other fault is reported as soon as it is seen. -/
def reach (segment : Segment) (finding : Lexeme.Finding) : Nat :=
  match finding.fault with
  | .invalidSuffix _ =>
      if segment.followed then segment.finish + 1
      else segment.start + Text.lastOffset segment.lexeme.text + 1
  | _ => finding.offset + 1

/-- The offset after the last one looked at in a segment. -/
def extent (segment : Segment) : Nat :=
  (segment.findings.map segment.reach).foldl max (segment.start + segment.lexeme.seen)

end Segment

/-- The token of a segment of a text that starts at a position. -/
def Segment.token (lexicon : Lexicon) (origin : Nat) (segment : Segment) : Token where
  kind := segment.lexeme.kind lexicon
  text := String.ofList segment.lexeme.text
  position := origin + segment.start

/-- Whether a lexicon keeps the token of a lexeme; only comments may be dropped. -/
def Lexeme.isKept (lexicon : Lexicon) : Lexeme → Bool
  | .comment _ _ => lexicon.keepComments
  | _ => true

/-- A text cut into segments, and the blank characters after the last one. -/
structure Reading where
  segments : List Segment
  blankTail : List Char
  deriving DecidableEq, Repr

namespace Reading

/-- What follows a lexeme is shorter than the text it was read from. -/
theorem length_drop_read_lt (lexicon : Lexicon) {text rest : List Char} {first : Char}
    (opens : text.dropWhile Character.isBlank = first :: rest) :
    ((first :: rest).drop (Lexeme.read lexicon first rest).text.length).length < text.length := by
  have shorter := (List.dropWhile_sublist (l := text) Character.isBlank).length_le
  have positive := List.length_pos_iff.mpr (Lexeme.read_text_ne_nil lexicon first rest)
  rw [opens] at shorter
  simp only [List.length_drop, List.length_cons] at shorter ⊢
  omega

/-- Cuts off segments from an offset on, after those already cut off. -/
def readAfter (lexicon : Lexicon) (offset : Nat) (done : List Segment) (text : List Char) : Reading :=
  match _ : text.dropWhile Character.isBlank with
  | [] => ⟨done.reverse, text⟩
  | first :: rest =>
      let start := offset + Text.width (text.takeWhile Character.isBlank)
      let lexeme := Lexeme.read lexicon first rest
      let after := (first :: rest).drop lexeme.text.length
      readAfter lexicon (start + Text.width lexeme.text) (⟨start, lexeme, !after.isEmpty⟩ :: done) after
termination_by text.length
decreasing_by exact length_drop_read_lt lexicon (by assumption)

/-- A text that is all blank has no segments. -/
theorem readAfter_of_blank (lexicon : Lexicon) (offset : Nat) (done : List Segment)
    {text : List Char} (blank : text.dropWhile Character.isBlank = []) :
    readAfter lexicon offset done text = ⟨done.reverse, text⟩ := by
  rw [readAfter]
  split
  · rfl
  · rename_i found
    rw [blank] at found
    cases found

/-- The first segment starts after the blank characters, and the reading goes on behind it. -/
theorem readAfter_of_cons (lexicon : Lexicon) (offset : Nat) (done : List Segment)
    {text rest : List Char} {first : Char}
    (opens : text.dropWhile Character.isBlank = first :: rest) :
    readAfter lexicon offset done text =
      let start := offset + Text.width (text.takeWhile Character.isBlank)
      let lexeme := Lexeme.read lexicon first rest
      let after := (first :: rest).drop lexeme.text.length
      readAfter lexicon (start + Text.width lexeme.text)
        (⟨start, lexeme, !after.isEmpty⟩ :: done) after := by
  rw [readAfter]
  split
  · rename_i found
    rw [opens] at found
    cases found
  · rename_i found
    rw [opens] at found
    cases found
    rfl

/-- Segments already cut off come first, and nothing else depends on them. -/
theorem readAfter_eq (lexicon : Lexicon) (offset : Nat) (done : List Segment) (text : List Char) :
    readAfter lexicon offset done text =
      { segments := done.reverse ++ (readAfter lexicon offset [] text).segments
        blankTail := (readAfter lexicon offset [] text).blankTail } := by
  induction size : text.length using Nat.strongRecOn generalizing offset done text with
  | _ size ih =>
      cases opens : text.dropWhile Character.isBlank with
      | nil => simp [readAfter_of_blank lexicon offset _ opens]
      | cons first rest =>
          have shorter := size ▸ length_drop_read_lt lexicon opens
          rw [readAfter_of_cons lexicon offset done opens,
            readAfter_of_cons lexicon offset [] opens]
          dsimp only
          rw [ih _ shorter _ (_ :: done) _ rfl, ih _ shorter _ [_] _ rfl]
          simp

/-- The reading of a text. -/
def ofText (lexicon : Lexicon) (text : List Char) : Reading := readAfter lexicon 0 [] text

/-- The offset at which the blank tail starts. -/
def tailStart (reading : Reading) : Nat :=
  match reading.segments.getLast? with
  | none => 0
  | some segment => segment.finish

/-- The offset after the last one looked at. -/
def extent (reading : Reading) : Nat :=
  (reading.segments.map Segment.extent).foldl max
    (if reading.blankTail.isEmpty then 0
      else reading.tailStart + Text.lastOffset reading.blankTail + 1)

/-- What is wrong with a text, in the order found, each with how far the reading had looked. -/
def findings (reading : Reading) : List (Lexeme.Finding × Nat) :=
  reading.segments.flatMap fun segment =>
    segment.findings.map fun finding => (finding, segment.reach finding)

/-- The tokens of a text that starts at a position. -/
def tokens (reading : Reading) (lexicon : Lexicon) (origin : Nat) : List Token :=
  (reading.segments.filter fun segment => segment.lexeme.isKept lexicon).map
    (Segment.token lexicon origin)

end Reading

end Lexing
