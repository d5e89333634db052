import Lexing.Proofs.Reading
import Lexing.Proofs.Run

/-! # Segmentations

`Segmentation` says how a text falls into segments without saying how they are found: a run of blank
characters, the lexeme that the visible character behind it opens, and so on behind that lexeme, up
to blank characters that end the text. Every text has exactly one segmentation, and it is the reading
of the text, so a fact about readings is an induction over segmentations. -/

namespace Lexing

open Text (MaximalRun)

/-- The segments of a text from an offset on, and the blank characters behind the last one. -/
inductive Segmentation (lexicon : Lexicon) : Nat → List Char → List Segment → List Char → Prop where
  | tail {offset : Nat} {blanks : List Char} (gap : MaximalRun Character.isBlank blanks []) :
      Segmentation lexicon offset blanks [] blanks
  | lexeme {offset : Nat} {blanks rest after tail : List Char} {first : Char}
      {segments : List Segment}
      (gap : MaximalRun Character.isBlank blanks (first :: rest))
      (whole : (Lexeme.read lexicon first rest).text ++ after = first :: rest)
      (behind : Segmentation lexicon
        (offset + Text.width blanks + Text.width (Lexeme.read lexicon first rest).text)
        after segments tail) :
      Segmentation lexicon offset (blanks ++ first :: rest)
        (⟨offset + Text.width blanks, Lexeme.read lexicon first rest, !after.isEmpty⟩ :: segments)
        tail

/-! ## Existence and uniqueness -/

/-- What a lexeme leaves of the text it was read from. -/
theorem Lexeme.text_append_drop (lexicon : Lexicon) (first : Char) (rest : List Char) :
    (Lexeme.read lexicon first rest).text ++
      (first :: rest).drop (Lexeme.read lexicon first rest).text.length = first :: rest := by
  obtain ⟨after, whole⟩ := Lexeme.read_text_isPrefix lexicon first rest
  rw [← whole, List.drop_left]

namespace Reading

/-- The reading of a text is a segmentation of it. -/
theorem segmentation (lexicon : Lexicon) (offset : Nat) (text : List Char) :
    Segmentation lexicon offset text (readAfter lexicon offset [] text).segments
      (readAfter lexicon offset [] text).blankTail := by
  induction size : text.length using Nat.strongRecOn generalizing offset text with
  | _ size ih =>
      have gap := MaximalRun.of_split Character.isBlank text
      have parts : text.takeWhile Character.isBlank ++ text.dropWhile Character.isBlank = text :=
        List.takeWhile_append_dropWhile
      cases opens : text.dropWhile Character.isBlank with
      | nil =>
          rw [opens] at gap parts
          rw [List.append_nil] at parts
          rw [parts] at gap
          rw [readAfter_of_blank lexicon offset [] opens]
          exact .tail gap
      | cons first rest =>
          have shorter := size ▸ length_drop_read_lt lexicon opens
          have behind := ih _ shorter
            (offset + Text.width (text.takeWhile Character.isBlank) +
              Text.width (Lexeme.read lexicon first rest).text) _ rfl
          rw [opens] at gap parts
          have all := Segmentation.lexeme gap (Lexeme.text_append_drop lexicon first rest) behind
          rw [parts] at all
          rw [readAfter_of_cons lexicon offset [] opens]
          dsimp only
          rw [readAfter_eq]
          exact all

end Reading

namespace Segmentation

/-- A text has no segmentation but its reading. -/
theorem readAfter_eq {lexicon : Lexicon} {offset : Nat} {text tail : List Char}
    {segments : List Segment} (segmented : Segmentation lexicon offset text segments tail) :
    Reading.readAfter lexicon offset [] text = ⟨segments, tail⟩ := by
  induction segmented with
  | tail gap =>
      have opens := gap.dropWhile_append
      rw [List.append_nil] at opens
      exact Reading.readAfter_of_blank _ _ [] opens
  | @lexeme offset blanks rest after tail first segments gap whole behind ih =>
      have left : (first :: rest).drop (Lexeme.read lexicon first rest).text.length = after := by
        rw [← whole, List.drop_left]
      rw [Reading.readAfter_of_cons _ _ [] gap.dropWhile_append, gap.takeWhile_append]
      dsimp only
      rw [left, Reading.readAfter_eq, ih]
      rfl

/-- Lexicons under which visible characters open the same lexemes cut every text alike. -/
theorem congr {lexicon other : Lexicon} {offset : Nat} {text tail : List Char}
    {segments : List Segment}
    (reads : ∀ first rest, Character.isBlank first = false →
      Lexeme.read other first rest = Lexeme.read lexicon first rest)
    (segmented : Segmentation lexicon offset text segments tail) :
    Segmentation other offset text segments tail := by
  induction segmented with
  | tail gap => exact .tail gap
  | lexeme gap whole behind ih =>
      rw [← reads _ _ (gap.stops _ rfl)] at whole ih ⊢
      exact .lexeme gap whole ih

end Segmentation

theorem Reading.ofText_congr {lexicon other : Lexicon}
    (reads : ∀ first rest, Character.isBlank first = false →
      Lexeme.read other first rest = Lexeme.read lexicon first rest)
    (text : List Char) : ofText other text = ofText lexicon text :=
  ((segmentation lexicon 0 text).congr reads).readAfter_eq

/-! ## Where segments stand -/

/-- A segment in a text whose first byte has an offset: a visible character opens the lexeme that is
read there, and `followed` says whether the lexeme leaves anything of the text. -/
inductive Segment.StandsIn (lexicon : Lexicon) (offset : Nat) : List Char → Segment → Prop where
  | intro (before : List Char) (first : Char) (rest after : List Char)
      (visible : Character.isBlank first = false)
      (whole : (Lexeme.read lexicon first rest).text ++ after = first :: rest) :
      Segment.StandsIn lexicon offset (before ++ first :: rest)
        ⟨offset + Text.width before, Lexeme.read lexicon first rest, !after.isEmpty⟩

/-- A segment stands in a longer text as it does in the end of that text. -/
theorem Segment.StandsIn.behind {lexicon : Lexicon} {offset : Nat} {text : List Char}
    {segment : Segment} (before : List Char)
    (stands : segment.StandsIn lexicon (offset + Text.width before) text) :
    segment.StandsIn lexicon offset (before ++ text) := by
  cases stands with
  | intro between first rest after visible whole =>
      have placed : Segment.StandsIn lexicon offset ((before ++ between) ++ first :: rest) _ :=
        .intro (before ++ between) first rest after visible whole
      rw [Text.width_append, ← Nat.add_assoc, List.append_assoc] at placed
      exact placed

theorem Segment.StandsIn.finish_le {lexicon : Lexicon} {offset : Nat} {text : List Char}
    {segment : Segment} (stands : segment.StandsIn lexicon offset text) :
    segment.finish + (if segment.followed then 1 else 0) ≤ offset + Text.width text := by
  cases stands with
  | intro before first rest after visible whole =>
      rw [← whole, Text.width_append, Text.width_append]
      cases after with
      | nil =>
          simp only [Segment.finish, List.isEmpty_nil, Bool.not_true, Bool.false_eq_true, if_false,
            Text.width_nil]
          omega
      | cons next others =>
          have positive := next.utf8Size_pos
          simp only [Segment.finish, List.isEmpty_cons, Bool.not_false, if_true, Text.width_cons]
          omega

theorem Segment.StandsIn.text_ne_nil {lexicon : Lexicon} {offset : Nat} {text : List Char}
    {segment : Segment} (stands : segment.StandsIn lexicon offset text) :
    segment.lexeme.text ≠ [] := by
  cases stands with
  | intro before first rest after visible whole => exact Lexeme.read_text_ne_nil lexicon first rest

namespace Segmentation

variable {lexicon : Lexicon} {offset : Nat} {text tail : List Char} {segments : List Segment}

theorem standsIn (segmented : Segmentation lexicon offset text segments tail) :
    ∀ segment ∈ segments, segment.StandsIn lexicon offset text := by
  induction segmented with
  | tail gap => exact fun segment member => absurd member List.not_mem_nil
  | @lexeme offset blanks rest after tail first segments gap whole behind ih =>
      intro segment member
      rcases List.mem_cons.mp member with rfl | later
      · exact .intro blanks first rest after (gap.stops first rfl) whole
      · have placed := ih segment later
        rw [Nat.add_assoc, ← Text.width_append] at placed
        rw [← whole, ← List.append_assoc]
        exact placed.behind _

theorem offset_le_start (segmented : Segmentation lexicon offset text segments tail) :
    ∀ segment ∈ segments, offset ≤ segment.start := by
  intro segment member
  cases segmented.standsIn segment member with
  | intro before => exact Nat.le_add_right offset _

/-- No segment starts before the end of an earlier one. -/
theorem ordered (segmented : Segmentation lexicon offset text segments tail) :
    segments.Pairwise fun earlier later => earlier.finish ≤ later.start := by
  induction segmented with
  | tail gap => exact .nil
  | lexeme gap whole behind ih => exact .cons behind.offset_le_start ih

/-- The tail is what stands behind the last segment. -/
theorem tailStart_add_width (segmented : Segmentation lexicon offset text segments tail) :
    (segments.getLast?.elim offset Segment.finish) + Text.width tail = offset + Text.width text := by
  induction segmented with
  | tail gap => rfl
  | @lexeme offset blanks rest after tail first segments gap whole behind ih =>
      rw [← whole, Text.width_append, Text.width_append]
      cases segments with
      | nil =>
          simp only [List.getLast?_nil, Option.elim_none] at ih
          simp only [List.getLast?_singleton, Option.elim_some, Segment.finish]
          omega
      | cons second others =>
          rw [List.getLast?_cons_cons]
          rw [List.getLast?_cons] at ih ⊢
          simp only [Option.elim_some] at ih ⊢
          omega

end Segmentation

end Lexing
