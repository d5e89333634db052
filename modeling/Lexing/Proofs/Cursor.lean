import Lexing.Cursor
import Lexing.Proofs.Extent
import Mathlib.Logic.Relation

/-! # Where cursors move

A cursor moves over single characters, and over what is compared as a whole: a comment marker, what
gives the base of a number, and a symbol. A scan takes it behind the next lexeme, or to the end of the
text if nothing visible is left. Every cursor that moves from the start of a text stands between two
characters of it, and every scan from there moves on.

`Cursor.scan` says what one scan comes to, whatever positions there are: `Scan.leads_scan` is the link to
`Scan.token`, which looks at one character after the other, and `runs_of_segmentation` the link from the
scans of a text to its reading. -/

namespace Lexing

open Text (MaximalRun)
open Relation (ReflTransGen)

namespace Cursor

/-- One scan: blank characters are passed, then one lexeme is read, unless nothing is left. A lexeme
that takes nothing would end the scanning of a text. -/
def scan (cursor : Cursor) (lexicon : Lexicon) : Option Segment × Cursor :=
  let opened := cursor.pass (cursor.rest.takeWhile Character.isBlank)
  match opened.rest with
  | [] => (none, opened)
  | first :: rest =>
      let lexeme := Lexeme.read lexicon first rest
      let next := opened.pass lexeme.text
      if next.offset = opened.offset then (none, next)
      else (some ⟨opened.offset, lexeme, !next.rest.isEmpty⟩, next)

/-! ## Moves -/

/-- A move of a cursor: over a character, or over letters that are compared as a whole. -/
inductive Moves (lexicon : Lexicon) (cursor : Cursor) : Cursor → Prop where
  | character {c : Char} {rest : List Char} (left : cursor.rest = c :: rest) :
      Moves lexicon cursor (cursor.pass [c])
  | marker {letters : List Char} (found : lexicon.markerAt? cursor.rest = some letters) :
      Moves lexicon cursor (cursor.pass letters)
  | lead : Moves lexicon cursor (cursor.pass (Lexeme.Base.detect cursor.rest).2)
  | symbol {letters : List Char} (found : lexicon.symbolAt? cursor.rest = some letters) :
      Moves lexicon cursor (cursor.pass letters)

/-- A cursor stands in a text if what is left of it is the end of the text from the offset on. -/
def StandsIn (text : List Char) (cursor : Cursor) : Prop :=
  ∃ before, text = before ++ cursor.rest ∧ cursor.offset = Text.width before

theorem standsIn_start (text : List Char) : (start text).StandsIn text := ⟨[], rfl, rfl⟩

/-- A cursor that passes what heads the rest of a text still stands in the text. -/
theorem StandsIn.pass {text letters : List Char} {cursor : Cursor} (stands : cursor.StandsIn text)
    (heads : letters <+: cursor.rest) : (cursor.pass letters).StandsIn text := by
  obtain ⟨before, whole, place⟩ := stands
  obtain ⟨after, headed⟩ := heads
  refine ⟨before ++ letters, ?_, ?_⟩
  · rw [Cursor.pass, ← headed, List.drop_left, List.append_assoc, headed]
    exact whole
  · rw [Cursor.pass, place, Text.width_append]

/-- What is passed in one move heads what is left. -/
theorem Moves.exists_pass {lexicon : Lexicon} {cursor next : Cursor} (moves : Moves lexicon cursor next) :
    ∃ letters, letters <+: cursor.rest ∧ next = cursor.pass letters := by
  cases moves with
  | character left =>
      rw [left]
      exact ⟨_, ⟨_, rfl⟩, rfl⟩
  | marker found => exact ⟨_, (Lexicon.markerAt?_some found).2, rfl⟩
  | lead => exact ⟨_, Lexeme.Base.detect_isPrefix _, rfl⟩
  | symbol found => exact ⟨_, (Lexicon.symbolAt?_some found).2, rfl⟩

/-- A cursor that moves in a text stands in it. -/
theorem StandsIn.moves {lexicon : Lexicon} {text : List Char} {cursor next : Cursor}
    (stands : cursor.StandsIn text) (moves : ReflTransGen (Moves lexicon) cursor next) :
    next.StandsIn text := by
  induction moves with
  | refl => exact stands
  | tail _ move ih =>
      obtain ⟨letters, heads, rfl⟩ := move.exists_pass
      exact ih.pass heads

/-- The offset of a cursor in a text is one between characters. -/
theorem StandsIn.isValid {text : List Char} {cursor : Cursor} (stands : cursor.StandsIn text) :
    String.Pos.Raw.IsValid (String.ofList text) ⟨cursor.offset⟩ := by
  obtain ⟨before, whole, place⟩ := stands
  rw [String.Pos.Raw.isValid_iff_exists_append]
  refine ⟨String.ofList before, String.ofList cursor.rest, ?_, ?_⟩
  · rw [← String.ofList_append, ← whole]
  · rw [place, ← Text.utf8ByteSize_ofList]
    rfl

/-- Character by character a cursor gets over all that heads what is left. -/
theorem moves_append (lexicon : Lexicon) (offset : Nat) (letters after : List Char) :
    ReflTransGen (Moves lexicon) ⟨offset, letters ++ after⟩ ⟨offset + Text.width letters, after⟩ := by
  induction letters generalizing offset with
  | nil => exact .refl
  | cons c others ih =>
      have step : Moves lexicon ⟨offset, c :: (others ++ after)⟩
          ⟨offset + Text.width [c], others ++ after⟩ := .character rfl
      have behind := ih (offset + Text.width [c])
      rw [Nat.add_assoc, ← Text.width_append] at behind
      exact .head step behind

/-! ## Scans -/

/-- What a scan comes to: the end of the text behind blank characters, or behind them a lexeme. -/
inductive Scans (lexicon : Lexicon) : Cursor → Option Segment → Cursor → Prop where
  | ends {offset : Nat} {blanks : List Char} (blank : ∀ c ∈ blanks, Character.isBlank c = true) :
      Scans lexicon ⟨offset, blanks⟩ none ⟨offset + Text.width blanks, []⟩
  | reads {offset : Nat} {blanks rest after : List Char} {first : Char}
      (gap : MaximalRun Character.isBlank blanks (first :: rest))
      (whole : (Lexeme.read lexicon first rest).text ++ after = first :: rest) :
      Scans lexicon ⟨offset, blanks ++ first :: rest⟩
        (some ⟨offset + Text.width blanks, Lexeme.read lexicon first rest, !after.isEmpty⟩)
        ⟨offset + Text.width blanks + Text.width (Lexeme.read lexicon first rest).text, after⟩

/-- Every scan comes to something. -/
theorem exists_scans (lexicon : Lexicon) (cursor : Cursor) :
    ∃ found next, Scans lexicon cursor found next := by
  obtain ⟨offset, text⟩ := cursor
  have gap := MaximalRun.of_split Character.isBlank text
  have parts : text.takeWhile Character.isBlank ++ text.dropWhile Character.isBlank = text :=
    List.takeWhile_append_dropWhile
  generalize text.takeWhile Character.isBlank = blanks at gap parts
  cases opens : text.dropWhile Character.isBlank with
  | nil =>
      rw [opens, List.append_nil] at parts
      rw [← parts]
      exact ⟨_, _, .ends gap.inside⟩
  | cons first rest =>
      rw [opens] at gap parts
      rw [← parts]
      exact ⟨_, _, .reads gap (Lexeme.text_append_drop lexicon first rest)⟩

/-- A scan has one outcome. A lexeme always takes something, so that none ends the scanning. -/
theorem scan_eq {lexicon : Lexicon} {cursor next : Cursor} {found : Option Segment}
    (scans : Scans lexicon cursor found next) : cursor.scan lexicon = (found, next) := by
  cases scans with
  | @ends offset blanks blank =>
      have all : blanks.takeWhile Character.isBlank = blanks := List.takeWhile_eq_self_iff.mpr blank
      simp only [scan, pass, all, List.drop_length]
  | @reads offset blanks rest after first gap whole =>
      have positive := mt Text.width_eq_zero_iff.mp (Lexeme.read_text_ne_nil lexicon first rest)
      have left : (first :: rest).drop (Lexeme.read lexicon first rest).text.length = after := by
        rw [← whole, List.drop_left]
      simp only [scan, pass, gap.takeWhile_append, List.drop_left, left]
      rw [if_neg (by omega)]

/-- What a scan yields: it goes forward, it is made of moves, the lexeme is what stands between its
ends and is not empty, and every fault is reported at an offset that the cursor passes. -/
structure Yields (lexicon : Lexicon) (cursor : Cursor) (segment : Segment) (next : Cursor) : Prop where
  forward : cursor.offset < next.offset
  moves : ReflTransGen (Moves lexicon) cursor next
  cuts : ∃ opened, ReflTransGen (Moves lexicon) cursor opened ∧ opened.offset = segment.start ∧
    segment.lexeme.text ≠ [] ∧ opened.rest = segment.lexeme.text ++ next.rest ∧
    next = opened.pass segment.lexeme.text
  reports : ∀ finding ∈ segment.findings, ∃ place, ReflTransGen (Moves lexicon) cursor place ∧
    place.offset = finding.offset ∧ ReflTransGen (Moves lexicon) place next

theorem Scans.yields {lexicon : Lexicon} {cursor next : Cursor} {segment : Segment}
    (scans : Scans lexicon cursor (some segment) next) : Yields lexicon cursor segment next := by
  cases scans with
  | @reads offset blanks rest after first gap whole =>
      have nonempty := Lexeme.read_text_ne_nil lexicon first rest
      have positive := mt Text.width_eq_zero_iff.mp nonempty
      have opened := moves_append lexicon offset blanks (first :: rest)
      have closed := moves_append lexicon (offset + Text.width blanks)
        (Lexeme.read lexicon first rest).text after
      rw [whole] at closed
      constructor
      case forward =>
        dsimp only
        omega
      case moves => exact opened.trans closed
      case cuts =>
        refine ⟨_, opened, rfl, nonempty, whole.symm, ?_⟩
        rw [pass, ← whole, List.drop_left]
      case reports =>
        intro finding member
        obtain ⟨before, behind, spelled, place⟩ := Segment.isIn_findings member
        dsimp only at spelled place
        -- the finding is made between two parts of the lexeme, and the cursor stops there on its way
        have reached := moves_append lexicon (offset + Text.width blanks) before (behind ++ after)
        have onward := moves_append lexicon (offset + Text.width blanks + Text.width before) behind after
        rw [← List.append_assoc, ← spelled, whole] at reached
        rw [spelled, Text.width_append, ← Nat.add_assoc]
        exact ⟨_, opened.trans reached, place.symm, onward⟩

/-- A scan from a cursor in a text yields a segment, or finds nothing visible and stops at the end of
the text. -/
theorem StandsIn.scan {lexicon : Lexicon} {text : List Char} {cursor : Cursor}
    (stands : cursor.StandsIn text) :
    (∃ segment next, cursor.scan lexicon = (some segment, next) ∧
        Yields lexicon cursor segment next) ∨
      cursor.scan lexicon = (none, finish text) ∧ ∀ c ∈ cursor.rest, Character.isBlank c = true := by
  obtain ⟨found, next, scans⟩ := exists_scans lexicon cursor
  cases found with
  | some segment => exact Or.inl ⟨segment, next, scan_eq scans, scans.yields⟩
  | none =>
      cases scans with
      | @ends offset blanks blank =>
          obtain ⟨before, whole, place⟩ := stands
          have atEnd : Cursor.mk (offset + Text.width blanks) [] = finish text := by
            rw [finish, whole, Text.width_append, ← place]
          refine Or.inr ⟨?_, blank⟩
          rw [← atEnd]
          exact scan_eq (.ends blank)

/-! ## Running to the end -/

/-- Scans from a cursor until one finds nothing, the segments they yield, and the cursor after the
last. -/
inductive Runs (lexicon : Lexicon) : Cursor → List Segment → Cursor → Prop where
  | ends {cursor next : Cursor} (nothing : cursor.scan lexicon = (none, next)) :
      Runs lexicon cursor [] next
  | reads {cursor next last : Cursor} {segment : Segment} {segments : List Segment}
      (one : cursor.scan lexicon = (some segment, next)) (behind : Runs lexicon next segments last) :
      Runs lexicon cursor (segment :: segments) last

/-- The scans of a text yield its segments and end. -/
theorem runs_of_segmentation {lexicon : Lexicon} {offset : Nat} {text tail : List Char}
    {segments : List Segment} (segmented : Segmentation lexicon offset text segments tail) :
    Runs lexicon ⟨offset, text⟩ segments ⟨offset + Text.width text, []⟩ := by
  induction segmented with
  | tail gap => exact .ends (scan_eq (.ends gap.inside))
  | @lexeme offset blanks rest after tail first segments gap whole behind ih =>
      have last : offset + Text.width (blanks ++ first :: rest) = offset + Text.width blanks +
          Text.width (Lexeme.read lexicon first rest).text + Text.width after := by
        rw [← whole, Text.width_append, Text.width_append, ← Nat.add_assoc, ← Nat.add_assoc]
      rw [last]
      exact .reads (scan_eq (.reads gap whole)) ih

end Cursor

end Lexing
