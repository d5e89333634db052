import Lexing.Proofs.Context.Lexeme
import Lexing.Proofs.Scanner
import Mathlib.Data.List.Forall2

/-! # Lexing is local to lines

No lexeme looks behind the end of its line, so two texts joined by a line break are cut into the
segments of the one and then those of the other. What an unfinished literal does to its own line it
does to no later one. Faults are local too, but for one: a hexadecimal escape that the end of the
text cuts short is not said to stop at anything, and one that the end of the line cuts short is. -/

namespace Lexing

open Text (MaximalRun Replaces)

/-- Neither the marker nor any symbol of a lexicon holds a line break. -/
structure Lexicon.WithinLines (lexicon : Lexicon) : Prop where
  marker : ∀ marker, lexicon.commentMarker = some marker → '\n' ∉ marker.toList
  symbols : ∀ symbol ∈ lexicon.symbols, '\n' ∉ symbol.toList

/-- A text ends where a hexadecimal escape still lacks a digit. -/
def Text.EndsInEscape (text : List Char) : Prop :=
  ∃ before digits, text = before ++ '\\' :: 'x' :: digits ∧ digits.length ≤ 1 ∧
    ∀ d ∈ digits, (Lexeme.digitValue? d).isSome = true

open Text (EndsInEscape)

theorem Text.EndsInEscape.append_left {text : List Char} (ends : EndsInEscape text)
    (before : List Char) : EndsInEscape (before ++ text) := by
  obtain ⟨between, digits, rfl, most, digit⟩ := ends
  exact ⟨before ++ between, digits, (List.append_assoc ..).symm, most, digit⟩

/-- Nothing that a lexicon lists reaches over a line break. -/
theorem Lexicon.WithinLines.isPrefix_of_append {lexicon : Lexicon} (within : lexicon.WithinLines)
    {first : Char} {rest other : List Char} :
    ∀ listed, lexicon.Lists listed → listed <+: first :: (rest ++ '\n' :: other) →
      listed <+: first :: rest := by
  intro listed lists isPrefix
  have noBreak : '\n' ∉ listed := by
    rcases lists with marker | symbol
    · have outside := within.marker _ marker
      rw [String.toList_ofList] at outside
      exact outside
    · have outside := within.symbols _ symbol
      rw [String.toList_ofList] at outside
      exact outside
  obtain ⟨more, whole⟩ := isPrefix
  rw [← List.cons_append] at whole
  rcases Text.append_eq_append_cons whole with ⟨others, listedEq⟩ | ⟨between, headed, _⟩
  · exact absurd (by simp [listedEq]) noBreak
  · exact ⟨between, headed.symm⟩

/-- Such a text ends in the letter of the escape or in its first digit. -/
theorem Text.EndsInEscape.getLast {text : List Char} (ends : EndsInEscape text) :
    ∃ c, text.getLast? = some c ∧ (c = 'x' ∨ (Lexeme.digitValue? c).isSome = true) := by
  obtain ⟨before, digits, rfl, most, digit⟩ := ends
  cases digits with
  | nil => exact ⟨'x', by simp, Or.inl rfl⟩
  | cons high rest =>
      have single : rest = [] := by
        rw [← List.length_eq_zero_iff]
        simp only [List.length_cons] at most
        omega
      exact ⟨high, by simp [single], Or.inr (digit high List.mem_cons_self)⟩

/-! ## Escapes at the end of a text -/

namespace Lexeme

theorem Piece.stoppingAt_readEscape (stop : Option Char) (text : List Char) :
    (readEscape text).1.stoppingAt stop = (readEscape text).1 ∨
      EndsInEscape (readEscape text).1.text := by
  cases text with
  | nil => exact Or.inl rfl
  | cons letter rest =>
      by_cases line : letter = '\n'
      · rw [readEscape, if_pos line]
        exact Or.inl rfl
      · by_cases hexadecimal : letter = 'x'
        · rw [readEscape, if_neg line, if_pos hexadecimal]
          rcases readHex_cases rest with ⟨high, low, after, rfl, isHigh, isLow⟩ |
            ⟨high, after, rfl, digit, stops⟩
          · refine Or.inl ?_
            simp [readHex, isHigh, isLow, stoppingAt]
          · rw [readHex_of_stop digit stops]
            refine Or.inr ⟨[], high.toList, rfl, ?_, fun d member => ?_⟩
            · cases high <;> simp
            · have present := digit d (by simpa using member)
              simpa using present
        · rw [readEscape, if_neg line, if_neg hexadecimal]
          exact Or.inl rfl

theorem PiecesOf.lastStoppingAt_or {text after : List Char} {found : List Piece}
    (fallen : PiecesOf text found after) (stop : Option Char) :
    lastStoppingAt stop found = found ∨ EndsInEscape (found.flatMap Piece.text) := by
  induction fallen with
  | stop stops => exact Or.inl rfl
  | @plain c rest after found inside notEscape behind ih =>
      cases found with
      | nil => exact Or.inl rfl
      | cons second others =>
          rcases ih with same | ends
          · exact Or.inl (congrArg (Piece.plain c :: ·) same)
          · exact Or.inr (ends.append_left [c])
  | @escape rest after found behind ih =>
      cases found with
      | nil =>
          rw [List.flatMap_singleton]
          exact (Piece.stoppingAt_readEscape stop rest).imp (congrArg ([·])) id
      | cons second others =>
          rcases ih with same | ends
          · exact Or.inl (congrArg ((Piece.readEscape rest).1 :: ·) same)
          · exact Or.inr (ends.append_left (Piece.readEscape rest).1.text)

theorem StringLiteral.stoppingAt_read (stop : Option Char) (text : List Char) :
    (read text).stoppingAt stop = read text ∨ EndsInEscape (read text).text := by
  obtain ⟨after, fallen⟩ := PiecesOf.exists_after text
  rw [fallen.read_eq]
  cases closed : after.head? == some '"' with
  | true => exact Or.inl rfl
  | false =>
      rcases fallen.lastStoppingAt_or stop with same | ends
      · exact Or.inl (by simp [stoppingAt, same])
      · refine Or.inr ?_
        simpa [StringLiteral.text, body, closing] using ends.append_left ['"']

theorem CharacterLiteral.splitFirst_stoppingAt_or (stop : Option Char) (text : List Char) :
    (splitFirst text).1.map (Piece.stoppingAt stop) = (splitFirst text).1 ∨
      EndsInEscape (firstText (splitFirst text).1) := by
  cases text with
  | nil => exact Or.inl rfl
  | cons first rest =>
      by_cases stops : first = '\'' ∨ first = '\n'
      · rw [splitFirst, if_pos stops]
        exact Or.inl rfl
      · by_cases escape : first = '\\'
        · rw [splitFirst, if_neg stops, if_pos escape]
          exact (Piece.stoppingAt_readEscape stop rest).imp (congrArg some) id
        · rw [splitFirst, if_neg stops, if_neg escape]
          exact Or.inl rfl

theorem CharacterLiteral.stoppingAt_read (stop : Option Char) (text : List Char) :
    (read text).stoppingAt stop = read text ∨ EndsInEscape (read text).text := by
  unfold CharacterLiteral.stoppingAt
  split
  · rename_i bare
    rcases splitFirst_stoppingAt_or stop text with same | ends
    · exact Or.inl (by rw [read, same])
    · refine Or.inr ?_
      simp only [Bool.and_eq_true, List.isEmpty_iff, Bool.not_eq_true'] at bare
      rw [CharacterLiteral.text, body, bare.1, bare.2, List.append_nil]
      simpa [closing, read] using ends.append_left ['\'']
  · exact Or.inl rfl

/-- What follows a lexeme changes nothing of it, unless it ends in an escape that lacks a digit. -/
theorem stoppingAt_read (lexicon : Lexicon) (first : Char) (rest : List Char) (stop : Option Char) :
    (read lexicon first rest).stoppingAt stop = read lexicon first rest ∨
      EndsInEscape (read lexicon first rest).text := by
  refine read_cases lexicon first rest ?comment ?word ?character ?string ?number ?symbol ?invalid
  case character =>
    exact fun _ => (CharacterLiteral.stoppingAt_read stop rest).imp (congrArg Lexeme.character) id
  case string =>
    exact fun _ => (StringLiteral.stoppingAt_read stop rest).imp (congrArg Lexeme.string) id
  all_goals intros; exact Or.inl rfl

/-- A lexeme is read for what it is where it is read. -/
theorem stoppingAt_head {lexicon : Lexicon} {first : Char} {rest after : List Char}
    (whole : (read lexicon first rest).text ++ after = first :: rest) :
    (read lexicon first rest).stoppingAt after.head? = read lexicon first rest :=
  (read_of_replaces whole whole (Replaces.refl after) fun _ _ isPrefix => isPrefix).symm

end Lexeme

/-! ## Segments of joined texts -/

namespace Segment

/-- The same segment in a text that starts further on. -/
def shift (distance : Nat) (segment : Segment) : Segment :=
  { segment with start := distance + segment.start }

/-- A segment of a text as it stands before a line break that is put behind the text. -/
structure Continues (text : List Char) (segment joined : Segment) : Prop where
  start : joined.start = segment.start
  lexeme : ∃ stop, joined.lexeme = segment.lexeme.stoppingAt stop
  same : ¬ EndsInEscape text → joined.lexeme = segment.lexeme

theorem Continues.append_left {text : List Char} {segment joined : Segment}
    (continues : Continues text segment joined) (before : List Char) :
    Continues (before ++ text) segment joined :=
  ⟨continues.start, continues.lexeme, fun none => continues.same (mt (·.append_left before) none)⟩

end Segment

/-- A lexeme before a line break that is put behind its text. -/
theorem Lexeme.read_continues {lexicon : Lexicon} {first : Char} {rest after : List Char}
    (within : lexicon.WithinLines) (other : List Char)
    (whole : (read lexicon first rest).text ++ after = first :: rest) :
    read lexicon first (rest ++ '\n' :: other) =
        (read lexicon first rest).stoppingAt (after ++ '\n' :: other).head? ∧
      (¬ EndsInEscape (first :: rest) →
        read lexicon first (rest ++ '\n' :: other) = read lexicon first rest) := by
  have replaces : Replaces (after ++ '\n' :: other) after := by
    intro c head
    cases after with
    | nil =>
        cases head
        exact Or.inr rfl
    | cons next more => exact Or.inl head
  have kept : (read lexicon first rest).text ++ (after ++ '\n' :: other) =
      first :: (rest ++ '\n' :: other) := by
    rw [← List.append_assoc, whole, List.cons_append]
  have again := read_of_replaces whole kept replaces within.isPrefix_of_append
  refine ⟨again, fun finished => ?_⟩
  rw [again]
  cases after with
  | nil =>
      rw [List.append_nil] at whole
      exact (stoppingAt_read lexicon first rest _).resolve_right (whole ▸ finished)
  | cons next more =>
      have same := stoppingAt_head whole
      exact same

namespace Segmentation

variable {lexicon : Lexicon} {offset : Nat} {text tail : List Char} {segments : List Segment}

/-- The segments of a text that starts further on. -/
theorem shift (segmented : Segmentation lexicon offset text segments tail) (distance : Nat) :
    Segmentation lexicon (distance + offset) text (segments.map (Segment.shift distance)) tail := by
  induction segmented with
  | tail gap => exact .tail gap
  | @lexeme offset blanks rest after tail first segments gap whole behind ih =>
      rw [← Nat.add_assoc, ← Nat.add_assoc] at ih
      have shifted := Segmentation.lexeme gap whole ih
      rw [Nat.add_assoc] at shifted
      exact shifted

/-- Blank characters put before a text belong to no segment. -/
theorem blank_append {blanks : List Char} (blank : ∀ c ∈ blanks, Character.isBlank c = true)
    (segmented : Segmentation lexicon (offset + Text.width blanks) text segments tail) :
    ∃ tail, Segmentation lexicon offset (blanks ++ text) segments tail := by
  cases segmented with
  | tail gap =>
      refine ⟨blanks ++ text, .tail ⟨fun c member => ?_, gap.stops⟩⟩
      exact (List.mem_append.mp member).elim (blank c) (gap.inside c)
  | @lexeme offset gapBlanks rest after tail first segments gap whole behind =>
      have all : MaximalRun Character.isBlank (blanks ++ gapBlanks) (first :: rest) :=
        ⟨fun c member => (List.mem_append.mp member).elim (blank c) (gap.inside c), gap.stops⟩
      have placed : offset + Text.width (blanks ++ gapBlanks) =
          offset + Text.width blanks + Text.width gapBlanks := by
        rw [Text.width_append, Nat.add_assoc]
      rw [← placed] at behind ⊢
      rw [← List.append_assoc]
      exact ⟨tail, .lexeme all whole behind⟩

/-- Two texts that a line break joins are cut into the segments of the one and then of the other. -/
theorem joined {other otherTail : List Char} {others : List Segment}
    (within : lexicon.WithinLines)
    (segmented : Segmentation lexicon offset text segments tail)
    (following : Segmentation lexicon (offset + Text.width text + 1) other others otherTail) :
    ∃ continued joinedTail, List.Forall₂ (Segment.Continues text) segments continued ∧
      Segmentation lexicon offset (text ++ '\n' :: other) (continued ++ others) joinedTail := by
  induction segmented with
  | @tail offset blanks gap =>
      have blank : ∀ c ∈ blanks ++ ['\n'], Character.isBlank c = true := by
        intro c member
        rcases List.mem_append.mp member with inside | line
        · exact gap.inside c inside
        · rw [List.mem_singleton.mp line]
          decide
      have placed : offset + Text.width (blanks ++ ['\n']) = offset + Text.width blanks + 1 := by
        rw [Text.width_append, Nat.add_assoc]
        rfl
      rw [← placed] at following
      obtain ⟨joinedTail, joined⟩ := blank_append blank following
      rw [List.append_assoc] at joined
      exact ⟨[], joinedTail, .nil, joined⟩
  | @lexeme offset blanks rest after tail first segments gap whole behind ih =>
      obtain ⟨stopped, finished⟩ := Lexeme.read_continues within other whole
      have width : offset + Text.width (blanks ++ first :: rest) = offset + Text.width blanks +
          Text.width (Lexeme.read lexicon first rest).text + Text.width after := by
        rw [← whole, Text.width_append, Text.width_append, Nat.add_assoc, Nat.add_assoc]
      rw [width] at following
      obtain ⟨continued, joinedTail, alike, joined⟩ := ih following
      have letters : (Lexeme.read lexicon first (rest ++ '\n' :: other)).text =
          (Lexeme.read lexicon first rest).text := by
        rw [stopped, Lexeme.text_stoppingAt]
      have wholeAgain : (Lexeme.read lexicon first (rest ++ '\n' :: other)).text ++
          (after ++ '\n' :: other) = first :: (rest ++ '\n' :: other) := by
        rw [letters, ← List.append_assoc, whole, List.cons_append]
      have gapAgain : MaximalRun Character.isBlank blanks (first :: (rest ++ '\n' :: other)) :=
        ⟨gap.inside, fun c head => gap.stops c head⟩
      rw [← letters] at joined
      have all := Segmentation.lexeme gapAgain wholeAgain joined
      refine ⟨⟨_, Lexeme.read lexicon first (rest ++ '\n' :: other),
        !(after ++ '\n' :: other).isEmpty⟩ :: continued, joinedTail,
        .cons ⟨rfl, ⟨_, stopped⟩, fun none => ?_⟩ ?_, ?_⟩
      · exact finished (mt (·.append_left blanks) none)
      · refine alike.imp fun segment other continues => ?_
        rw [← whole, ← List.append_assoc]
        exact continues.append_left _
      · rw [List.append_assoc]
        exact all

end Segmentation

/-! ## Tokens and diagnostics -/

namespace Segment

theorem token_shift (lexicon : Lexicon) (origin distance : Nat) (segment : Segment) :
    (segment.shift distance).token lexicon origin = segment.token lexicon (origin + distance) := by
  simp only [token, shift, Nat.add_assoc]

theorem diagnostics_shift (origin distance : Nat) (segment : Segment) :
    (segment.shift distance).diagnostics origin = segment.diagnostics (origin + distance) := by
  simp [diagnostics, findings, shift, Lexeme.Finding.diagnostic, Lexeme.Finding.shift,
    Nat.add_assoc]

variable {text : List Char} {segment joined : Segment}

theorem Continues.token_eq (continues : Continues text segment joined) (lexicon : Lexicon)
    (origin : Nat) : joined.token lexicon origin = segment.token lexicon origin := by
  obtain ⟨stop, lexeme⟩ := continues.lexeme
  simp [token, continues.start, lexeme]

theorem Continues.isKept_eq (continues : Continues text segment joined) (lexicon : Lexicon) :
    joined.lexeme.isKept lexicon = segment.lexeme.isKept lexicon := by
  obtain ⟨stop, lexeme⟩ := continues.lexeme
  simp [lexeme]

theorem Continues.diagnostics_eq (continues : Continues text segment joined)
    (finished : ¬ EndsInEscape text) (origin : Nat) :
    joined.diagnostics origin = segment.diagnostics origin := by
  simp only [diagnostics, findings, continues.start, continues.same finished]

theorem tokens_of_continues {segments continued : List Segment}
    (alike : List.Forall₂ (Continues text) segments continued) (lexicon : Lexicon) (origin : Nat) :
    (continued.filter fun segment => segment.lexeme.isKept lexicon).map (token lexicon origin) =
      (segments.filter fun segment => segment.lexeme.isKept lexicon).map (token lexicon origin) := by
  induction alike with
  | nil => rfl
  | cons continues _ ih =>
      rw [List.filter_cons, List.filter_cons, continues.isKept_eq]
      split
      · rw [List.map_cons, List.map_cons, continues.token_eq, ih]
      · exact ih

theorem diagnostics_of_continues {segments continued : List Segment}
    (alike : List.Forall₂ (Continues text) segments continued) (finished : ¬ EndsInEscape text)
    (origin : Nat) :
    continued.flatMap (diagnostics origin) = segments.flatMap (diagnostics origin) := by
  induction alike with
  | nil => rfl
  | cons continues _ ih =>
      rw [List.flatMap_cons, List.flatMap_cons, continues.diagnostics_eq finished, ih]

end Segment

namespace Reading

variable {lexicon : Lexicon}

theorem segments_joined (within : lexicon.WithinLines) (first second : List Char) :
    ∃ continued, List.Forall₂ (Segment.Continues first) (ofText lexicon first).segments continued ∧
      (ofText lexicon (first ++ '\n' :: second)).segments = continued ++
        (ofText lexicon second).segments.map (Segment.shift (Text.width first + 1)) := by
  have following := (segmentation lexicon 0 second).shift (Text.width first + 1)
  rw [Nat.add_zero, ← Nat.zero_add (Text.width first)] at following
  obtain ⟨continued, tail, alike, joined⟩ :=
    (segmentation lexicon 0 first).joined within following
  rw [Nat.zero_add] at joined
  exact ⟨continued, alike, by rw [ofText, joined.readAfter_eq]; rfl⟩

theorem tokens_joined (within : lexicon.WithinLines) (first second : List Char) (origin : Nat) :
    (ofText lexicon (first ++ '\n' :: second)).tokens lexicon origin =
      (ofText lexicon first).tokens lexicon origin ++
        (ofText lexicon second).tokens lexicon (origin + (Text.width first + 1)) := by
  obtain ⟨continued, alike, segments⟩ := segments_joined within first second
  rw [tokens, segments, List.filter_append, List.map_append,
    Segment.tokens_of_continues alike lexicon origin, List.filter_map, List.map_map]
  refine congrArg _ (List.map_congr_left fun segment _ => ?_)
  exact segment.token_shift lexicon origin _

theorem diagnostics_joined (within : lexicon.WithinLines) {first : List Char}
    (finished : ¬ EndsInEscape first) (second : List Char) (origin : Nat) :
    (ofText lexicon (first ++ '\n' :: second)).diagnostics origin =
      (ofText lexicon first).diagnostics origin ++
        (ofText lexicon second).diagnostics (origin + (Text.width first + 1)) := by
  obtain ⟨continued, alike, segments⟩ := segments_joined within first second
  rw [diagnostics_eq, segments, List.flatMap_append,
    Segment.diagnostics_of_continues alike finished origin, List.flatMap_map]
  simp only [Segment.diagnostics_shift, diagnostics_eq]

end Reading

/-- What is read of two texts and, where a line break joins them, of both: the tokens of the one and then
those of the other, where it stands. -/
structure LexesLines (origin : Nat) (first second : String) (lexicon : Lexicon)
    (early late : List Token) (found others reported : List Diagnostic) : Prop where
  ofFirst : (Source.File.mk origin first).LexesTo lexicon early found
  ofSecond : (Source.File.mk (origin + first.utf8ByteSize + 1) second).LexesTo lexicon late others
  ofBoth : (Source.File.mk origin (first ++ "\n" ++ second)).LexesTo lexicon (early ++ late) reported

/-- Two texts that a line break joins are lexed as the one and then the other, where it stands. The
faults reported are those of the one and then those of the other, unless the first text ends in an
escape that lacks a digit. -/
theorem Scanner.lex_lines (origin : Nat) (first second : String) (lexicon : Lexicon)
    (within : lexicon.WithinLines)
    (inRange : (Source.File.mk origin (first ++ "\n" ++ second)).InRange) :
    ∃ early late found others reported,
      LexesLines origin first second lexicon early late found others reported ∧
      (¬ EndsInEscape first.toList → reported = found ++ others) := by
  have size : (first ++ "\n" ++ second).utf8ByteSize =
      first.utf8ByteSize + 1 + second.utf8ByteSize := by
    rw [String.utf8ByteSize_append, String.utf8ByteSize_append]
    rfl
  have spelled : (first ++ "\n" ++ second).toList = first.toList ++ '\n' :: second.toList := by
    simp
  have firstInRange : (Source.File.mk origin first).InRange := by
    simp only [Source.File.InRange, size] at inRange ⊢
    omega
  have secondInRange : (Source.File.mk (origin + first.utf8ByteSize + 1) second).InRange := by
    simp only [Source.File.InRange, size] at inRange ⊢
    omega
  have whole := Source.File.lexesTo_of_inRange inRange lexicon
  have tokens := Reading.tokens_joined within first.toList second.toList origin
  rw [← spelled, Text.width_toList, ← Nat.add_assoc] at tokens
  rw [Source.File.tokens, Source.File.reading, tokens] at whole
  refine ⟨_, _, _, _, _, ⟨Source.File.lexesTo_of_inRange firstInRange lexicon,
    Source.File.lexesTo_of_inRange secondInRange lexicon, whole⟩, fun finished => ?_⟩
  have diagnostics := Reading.diagnostics_joined within finished second.toList origin
  rw [← spelled, Text.width_toList, ← Nat.add_assoc] at diagnostics
  exact diagnostics

/-- A string that the end of its line cuts short behind an unknown escape, and the next line. -/
theorem Scanner.lex_lines_unclosed :
    Lexicon.standard.WithinLines ∧
      (Source.File.mk 5 ("x = \"é\\q" ++ "\n" ++ "'y' // \"")).InRange ∧
      ¬ EndsInEscape "x = \"é\\q".toList ∧
      ∃ early late found others,
        LexesLines 5 "x = \"é\\q" "'y' // \"" Lexicon.standard early late found others
          (found ++ others) := by
  have within : Lexicon.standard.WithinLines := ⟨by decide, by decide⟩
  have finished : ¬ EndsInEscape "x = \"é\\q".toList := by
    intro ends
    obtain ⟨c, last, either⟩ := ends.getLast
    cases last
    exact absurd either (by decide)
  obtain ⟨early, late, found, others, reported, lexes, split⟩ :=
    Scanner.lex_lines 5 "x = \"é\\q" "'y' // \"" Lexicon.standard within (by decide)
  rw [split finished] at lexes
  exact ⟨within, by decide, finished, early, late, found, others, lexes⟩

end Lexing
