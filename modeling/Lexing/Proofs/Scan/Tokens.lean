import Lexing.Proofs.Cursor
import Lexing.Proofs.Scan.Lexeme

/-! # What the scan of a text comes to

A scan of one token is what `Cursor.scan` says it is, and the scans of a text in a row come to its
reading: they give its tokens and report what is wrong with it, and they look as far as its extent. -/

namespace Lexing

/-! ## How far a reading looks -/

namespace Segmentation

variable {lexicon : Lexicon} {offset : Nat} {text tail : List Char} {segments : List Segment}
  {last : Segment}

/-- No segment looks further than the last one. -/
theorem extent_le_last (segmented : Segmentation lexicon offset text (segments ++ [last]) tail) :
    ∀ segment ∈ segments ++ [last], segment.extent ≤ last.extent := by
  intro segment member
  have visible := (segmented.standsIn segment member).text_ne_nil
  rcases List.mem_append.mp member with early | here
  · have before := (List.pairwise_append.mp segmented.ordered).2.2 segment early last
      (List.mem_singleton_self last)
    have extent := segment.extent_le visible
    have start := last.start_lt_extent
    omega
  · rw [List.mem_singleton.mp here]

end Segmentation

namespace Scan

/-- How far is looked by the scans of segments and of the blank characters behind them, that stand from
an offset on: as far as the last blank character, or else as far as the last segment. -/
def lookedBehind (offset looked : Nat) (segments : List Segment) (tail : List Char) : Nat :=
  if tail.isEmpty then segments.getLast?.elim looked Segment.extent
  else segments.getLast?.elim offset Segment.finish + Text.lastOffset tail + 1

/-- Behind a segment the others are looked at, or else nothing is. -/
theorem lookedBehind_cons {segment : Segment} {segments : List Segment} {tail : List Char}
    {behind : Nat} (ends : segments = [] → tail = [] → behind = segment.extent) (offset looked : Nat) :
    lookedBehind segment.finish behind segments tail =
      lookedBehind offset looked (segment :: segments) tail := by
  rcases List.eq_nil_or_concat segments with rfl | ⟨init, last, rfl⟩
  · cases tail with
    | nil => exact ends rfl rfl
    | cons c others => rfl
  · rw [List.concat_eq_append, lookedBehind, lookedBehind, ← List.cons_append, List.getLast?_concat,
      List.getLast?_concat]
    rfl

/-- The extent of a reading is how far the scans of its text look. -/
theorem extent_eq_lookedBehind {lexicon : Lexicon} {text tail : List Char} {segments : List Segment}
    (segmented : Segmentation lexicon 0 text segments tail) :
    Reading.extent ⟨segments, tail⟩ = lookedBehind 0 0 segments tail := by
  rcases List.eq_nil_or_concat segments with rfl | ⟨init, last, rfl⟩
  · rfl
  · rw [List.concat_eq_append] at segmented ⊢
    have furthest := segmented.extent_le_last
    have visible := (segmented.standsIn last (List.mem_append_right _ List.mem_cons_self)).text_ne_nil
    have bound := last.extent_le visible
    simp only [Reading.extent, Reading.tailStart, lookedBehind, List.getLast?_concat, Option.elim_some]
    apply foldl_max_eq
    · split
      · exact Nat.zero_le _
      · exact Nat.le_refl _
    · intro reached member
      obtain ⟨segment, found, rfl⟩ := List.mem_map.mp member
      have least := furthest segment found
      split <;> omega
    · split
      · exact Or.inr (List.mem_map_of_mem (List.mem_append_right _ List.mem_cons_self))
      · exact Or.inl rfl

/-! ## One token -/

variable (origin : Nat) {lexicon : Lexicon} {place : Place}

/-- Behind the last token there is none, and all that is left is blank. -/
theorem does_token_none (lexicon : Lexicon)
    (blank : ∀ c ∈ place.cursor.rest, Character.isBlank c = true) :
    Does origin (token lexicon) place none (place.take place.cursor.rest) [] := by
  have blanks := Does.takeWhile origin Character.isBlank place
  have all : place.cursor.rest.takeWhile Character.isBlank = place.cursor.rest :=
    List.takeWhile_eq_self_iff.mpr blank
  have atEnd : (place.take place.cursor.rest).cursor.rest = [] := by
    rw [Place.cursor_take, Cursor.pass, List.drop_length]
  rw [all, Place.glance_of_nil atEnd] at blanks
  apply blanks.before
  apply (Does.get _).before
  apply (does_lexeme_none origin lexicon atEnd).before
  exact .pure _ _

/-- The next token is that of the next segment. A lexeme always takes something. -/
theorem leads_token {blanks rest after : List Char} {first : Char}
    (gap : Text.MaximalRun Character.isBlank blanks (first :: rest))
    (left : place.cursor.rest = blanks ++ first :: rest)
    (whole : (Lexeme.read lexicon first rest).text ++ after = first :: rest) :
    ∃ target, EndsAt (place.cursor.offset + Text.width blanks) (Lexeme.read lexicon first rest) after
        target ∧
      Leads origin (token lexicon) place
        (some (Segment.token lexicon origin ⟨place.cursor.offset + Text.width blanks,
          Lexeme.read lexicon first rest, !after.isEmpty⟩)) target
        (Segment.made ⟨place.cursor.offset + Text.width blanks, Lexeme.read lexicon first rest,
          !after.isEmpty⟩) := by
  have skipped := Does.takeWhile origin Character.isBlank place
  rw [left, gap.takeWhile_append] at skipped
  have opened : (place.take blanks).cursor = ⟨place.cursor.offset + Text.width blanks, first :: rest⟩ :=
    Cursor.pass_of_append left
  have visible : (place.take blanks).cursor.rest = first :: rest := by rw [opened]
  rw [Place.glance_of_cons visible] at skipped
  have looked : (place.take blanks).look.cursor.rest = first :: rest := visible
  obtain ⟨target, ends, next, does, alike⟩ := reads_lexeme origin lexicon looked rfl whole.symm
  rw [Place.cursor_look, opened] at ends does
  have onward : place.cursor.offset + Text.width blanks < next.looked := does.onward
  have passes : next.cursor.offset ≠ place.cursor.offset + Text.width blanks := by
    have positive := mt Text.width_eq_zero_iff.mp (Lexeme.read_text_ne_nil lexicon first rest)
    rw [Place.cursor_eq_of_glance alike, ends.cursor]
    dsimp only
    omega
  refine ⟨target, ends, next, skipped.before ((Does.get _).before (does.before_silent ?_)), alike⟩
  rw [Place.cursor_look, opened]
  apply (Does.get next).before
  rw [if_neg passes]
  apply (Does.read next).before
  apply (Does.advance onward).before
  exact .pure _ next

/-- From any place the scan of a token does what `Cursor.scan` says: it gives the token of the segment
that this finds, if there is one, reports what is wrong with it, and leads to the same cursor. -/
theorem leads_scan (lexicon : Lexicon) (place : Place) :
    ∃ target : Place, target.cursor = (place.cursor.scan lexicon).2 ∧
      Leads origin (token lexicon) place
        ((place.cursor.scan lexicon).1.map (Segment.token lexicon origin)) target
        ((place.cursor.scan lexicon).1.elim [] Segment.made) := by
  obtain ⟨found, next, scans⟩ := Cursor.exists_scans lexicon place.cursor
  rw [Cursor.scan_eq scans]
  generalize left : place.cursor = cursor at scans
  have start := congrArg Cursor.offset left
  have text := congrArg Cursor.rest left
  cases scans with
  | @ends offset blanks blank =>
      refine ⟨place.take place.cursor.rest, ?_, _, does_token_none origin lexicon (text ▸ blank), rfl⟩
      rw [Place.cursor_take, left, Cursor.pass, List.drop_length]
  | @reads offset blanks rest after first gap whole =>
      obtain ⟨target, ends, leads⟩ := leads_token origin gap text whole
      rw [start] at ends leads
      exact ⟨target, ends.cursor, leads⟩

/-! ## All tokens -/

/-- The scans of a text give its tokens one by one and report what is wrong with it, and they look as far
as its segments and the blanks behind them. -/
theorem exists_collects {offset : Nat} {text tail : List Char} {segments : List Segment}
    (segmented : Segmentation lexicon offset text segments tail) (place : Place)
    (left : place.cursor = ⟨offset, text⟩) :
    ∃ last : Place, last.cursor = ⟨offset + Text.width text, []⟩ ∧
      last.looked = lookedBehind offset place.looked segments tail ∧
      Collects origin (token lexicon) place (segments.map (Segment.token lexicon origin)) last
        (segments.flatMap Segment.made) := by
  induction segmented generalizing place with
  | @tail offset blanks gap =>
      have rest : place.cursor.rest = blanks := congrArg Cursor.rest left
      have nothing := does_token_none origin lexicon (rest ▸ gap.inside)
      rw [rest] at nothing
      refine ⟨place.take blanks, ?_, ?_, .ends nothing⟩
      · rw [Place.cursor_take, left, Cursor.pass, List.drop_length]
      · rw [Place.looked_take, lookedBehind, left]
        simp only [List.isEmpty_iff]
        rfl
  | @lexeme offset blanks rest after tail first segments gap whole behind ih =>
      have start : place.cursor.offset = offset := congrArg Cursor.offset left
      obtain ⟨target, ends, next, does, alike⟩ :=
        leads_token origin gap (congrArg Cursor.rest left) whole
      rw [start] at ends does
      have moved := (Place.cursor_eq_of_glance alike).trans ends.cursor
      obtain ⟨last, atEnd, looked, collects⟩ := ih next moved
      refine ⟨last, ?_, ?_, .gives does ?_ collects⟩
      · rw [atEnd, ← whole, Text.width_append, Text.width_append]
        simp only [Nat.add_assoc]
      · -- only the last segment decides how far is looked, and only if no blanks stand behind it
        have last : segments = [] → tail = [] → next.looked = Segment.extent
            ⟨offset + Text.width blanks, Lexeme.read lexicon first rest, !after.isEmpty⟩ := by
          rintro rfl rfl
          cases behind with
          | tail =>
              exact looked_eq_extent (Lexeme.read_text_ne_nil lexicon first rest) ends alike
                fun entry member => (does.between entry member).2
        exact looked.trans (lookedBehind_cons last offset place.looked)
      · have some := List.length_pos_iff.mpr (Lexeme.read_text_ne_nil lexicon first rest)
        rw [moved, left, ← whole, List.length_append, List.length_append]
        dsimp only
        omega

/-- A lexicon drops the tokens that it drops segments for. -/
theorem filter_tokens (lexicon : Lexicon) (origin : Nat) (segments : List Segment) :
    ((segments.map (Segment.token lexicon origin)).filter fun token =>
      token.kind != .comment || lexicon.keepComments) =
      (segments.filter fun segment => segment.lexeme.isKept lexicon).map
        (Segment.token lexicon origin) := by
  rw [List.filter_map]
  refine congrArg _ (List.filter_congr fun segment _ => ?_)
  rw [Function.comp_apply, Segment.token]
  cases segment.lexeme with
  | word letters =>
      rw [Lexeme.kind, Lexicon.wordKind]
      split <;> rfl
  | _ => rfl

/-- The scan of a text comes to its reading. -/
theorem does_tokens (lexicon : Lexicon) (text : List Char) :
    ∃ last : Place, last.cursor = .finish text ∧ last.looked = (Reading.ofText lexicon text).extent ∧
      Does origin (tokens lexicon) (.start text)
        ((Reading.ofText lexicon text).tokens lexicon origin) last
        (Reading.ofText lexicon text).findings := by
  have segmented := Reading.segmentation lexicon 0 text
  obtain ⟨last, atEnd, looked, collects⟩ := exists_collects origin segmented (.start text) rfl
  have does := collects.does.before_silent (f := fun tokens => pure (tokens.filter fun token =>
    token.kind != .comment || lexicon.keepComments)) (.pure _ last)
  rw [filter_tokens] at does
  rw [Nat.zero_add] at atEnd
  exact ⟨last, atEnd, looked.trans (extent_eq_lookedBehind segmented).symm, does⟩

/-- Scanning a text that starts at a position gives its tokens and reports what is wrong with it, if
every offset that is looked at has a position. Else it ends early, and what is reported is what is found
by then. -/
theorem tokens_start (lexicon : Lexicon) (text : List Char) (log : Log) :
    tokens lexicon origin (.start text) log =
      if Position.fits origin (Reading.ofText lexicon text).extent then
        (.ok ((Reading.ofText lexicon text).tokens lexicon origin, .finish text),
          log.append ((Reading.ofText lexicon text).diagnostics origin))
      else
        (.error .position, log.append ((Reading.ofText lexicon text).diagnosticsThatFit origin)) := by
  obtain ⟨last, atEnd, looked, does⟩ := does_tokens origin lexicon text
  have run := does.run rfl log
  rwa [atEnd, looked] at run

end Scan

end Lexing
