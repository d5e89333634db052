import Lexing.Proofs.Scan.Number

/-! # What scans of lexemes come to

Of the parts that are tried in turn the first one that fits takes the lexeme that stands at the cursor,
and the others look at no more than the character there, which is looked at already. `Takes` tells how
far is looked only up to the next character; `EndsAt` gives the exact place for each kind of lexeme. -/

namespace Lexing

/-- Whether something is missing where a lexeme ends. Its position is taken then, to report that. -/
def Lexeme.endMissing : Lexeme → Bool
  | .character literal => !literal.closed
  | .string literal => !literal.closed
  | .number numeral => Scan.lacksDigits numeral.exponent numeral.suffix
  | _ => false

namespace Scan

open Lexeme (Finding Numeral StringLiteral CharacterLiteral)

/-! ## The end of a lexeme -/

/-- A place behind a lexeme that starts at an offset: its characters were looked at, and the position
behind them was taken if something is missing there. -/
structure EndsAt (start : Nat) (lexeme : Lexeme) (after : List Char) (target : Place) : Prop where
  cursor : target.cursor = ⟨start + Text.width lexeme.text, after⟩
  looked : target.looked =
    if lexeme.endMissing then start + Text.width lexeme.text + 1 else start + lexeme.seen

/-- A part of a scan reads a lexeme, reports what is wrong with it, and leaves what is behind it. -/
def Reads (origin : Nat) (part : Scan (Option Lexeme)) (place : Place) (lexeme : Lexeme)
    (after : List Char) : Prop :=
  ∃ target, EndsAt place.cursor.offset lexeme after target ∧
    Leads origin part place (some lexeme) target
      (Segment.made ⟨place.cursor.offset, lexeme, !after.isEmpty⟩)

theorem looked_stop (place : Place) (letters : List Char) (missing : Bool) :
    (place.stop letters missing).looked =
      if missing then place.cursor.offset + Text.width letters + 1 else (place.take letters).looked := by
  cases missing <;> rfl

/-- Behind letters that are looked at one by one. -/
theorem endsAt_stop {place : Place} {lexeme : Lexeme} {after : List Char}
    (whole : place.cursor.rest = lexeme.text ++ after) (nonempty : lexeme.text ≠ [])
    (seen : lexeme.seen = Text.lastOffset lexeme.text + 1) :
    EndsAt place.cursor.offset lexeme after (place.stop lexeme.text lexeme.endMissing) where
  cursor := by rw [Place.cursor_stop, Cursor.pass_of_append whole]
  looked := by
    rw [looked_stop, seen]
    refine congrArg (ite _ _) ?_
    exact if_neg nonempty

/-- What is wrong with a lexeme that is no number is found at once. -/
theorem made_eq_atOnce {lexeme : Lexeme} (other : ∀ numeral, lexeme ≠ .number numeral) (start : Nat)
    (followed : Bool) : Segment.made ⟨start, lexeme, followed⟩ =
      atOnce (lexeme.findings.map (Finding.shift start)) := by
  refine List.map_congr_left fun finding found => ?_
  obtain ⟨original, member, rfl⟩ := List.mem_map.mp found
  refine congrArg (Prod.mk _) ?_
  unfold Segment.reach
  split
  · rename_i suffix isSuffix
    exact absurd isSuffix (Lexeme.fault_ne_invalidSuffix other suffix original member)
  · rfl

/-- Something is reported where a lexeme ends if it is missing there. -/
theorem exists_finding_of_endMissing {lexeme : Lexeme} (missing : lexeme.endMissing = true) :
    ∃ finding ∈ lexeme.findings, finding.offset = Text.width lexeme.text ∧
      ∀ suffix, finding.fault ≠ .invalidSuffix suffix := by
  cases lexeme with
  | string literal =>
      have unclosed : literal.closed = false := Bool.not_eq_true' _ ▸ missing
      refine ⟨⟨1 + Text.width literal.body, .unclosed .string⟩, ?_, ?_,
        fun suffix => Lexeme.Fault.noConfusion⟩
      · apply List.mem_append_right
        rw [unclosed]
        exact List.mem_singleton_self _
      · rw [Lexeme.text, StringLiteral.text, unclosed, Lexeme.closing, if_neg Bool.false_ne_true,
          List.append_nil]
        rfl
  | character literal =>
      have unclosed : literal.closed = false := Bool.not_eq_true' _ ▸ missing
      refine ⟨⟨1 + Text.width literal.body, .unclosed .character⟩, ?_, ?_,
        fun suffix => Lexeme.Fault.noConfusion⟩
      · apply List.mem_append_right
        rw [unclosed]
        exact List.mem_singleton_self _
      · rw [Lexeme.text, CharacterLiteral.text, unclosed, Lexeme.closing, if_neg Bool.false_ne_true,
          List.append_nil]
        rfl
  | number numeral =>
      obtain ⟨bare, lacks⟩ := (Bool.and_eq_true _ _).mp missing
      refine ⟨⟨Text.width numeral.body, .exponentWithoutDigits⟩, ?_, ?_,
        fun suffix => Lexeme.Fault.noConfusion⟩
      · apply List.mem_append_right
        rw [Numeral.endFindings, if_pos bare]
        cases given : numeral.exponent with
        | none =>
            rw [given] at lacks
            cases lacks
        | some exponent =>
            rw [given, Option.any_some, Bool.not_eq_true'] at lacks
            dsimp only
            rw [lacks]
            exact List.mem_singleton_self _
      · rw [Lexeme.text, Numeral.text, List.isEmpty_iff.mp bare, List.append_nil]
  | _ => cases missing

/-- At the end of the text the scan of a segment looks as far as its extent. -/
theorem looked_eq_extent {start : Nat} {lexeme : Lexeme} {target next : Place}
    (visible : lexeme.text ≠ []) (ends : EndsAt start lexeme [] target)
    (alike : next.glance = target.glance)
    (between : ∀ entry ∈ Segment.made ⟨start, lexeme, false⟩, entry.2 ≤ next.looked) :
    next.looked = Segment.extent ⟨start, lexeme, false⟩ := by
  have atEnd : target.cursor.rest = [] := by rw [ends.cursor]
  have same := Place.cursor_eq_of_glance alike
  rw [Place.glance_of_nil atEnd, Place.glance_of_nil (same ▸ atEnd)] at alike
  have seen := lexeme.seen_le_width visible
  have looked := ends.looked
  rw [← alike] at looked
  symm
  apply foldl_max_eq
  · rw [looked]
    dsimp only
    split <;> omega
  · intro reached member
    obtain ⟨finding, found, rfl⟩ := List.mem_map.mp member
    exact between _ (List.mem_map_of_mem found)
  · rw [looked]
    split
    case isTrue missing =>
      obtain ⟨finding, found, offset, other⟩ := exists_finding_of_endMissing missing
      refine Or.inr (List.mem_map.mpr ⟨_, List.mem_map_of_mem found, ?_⟩)
      unfold Segment.reach
      split
      · rename_i suffix isSuffix
        exact absurd isSuffix (other suffix)
      · exact congrArg (start + · + 1) offset
    case isFalse => exact Or.inl rfl

/-! ## Each kind of lexeme -/

section

variable (origin : Nat) {lexicon : Lexicon} {place : Place} {first : Char} {rest after : List Char}

theorem reads_comment {marker body : List Char}
    (found : lexicon.markerAt? place.cursor.rest = some marker)
    (line : Lexeme.restOfLine (place.cursor.rest.drop marker.length) = body)
    (looked : place.looked = place.cursor.offset + 1)
    (whole : place.cursor.rest = marker ++ body ++ after) :
    Reads origin (comment lexicon) place (.comment marker body) after := by
  refine ⟨(place.pass marker).take body, ⟨?cursor, ?looked⟩, ?leads⟩
  case cursor =>
    rw [Place.cursor_take, Place.cursor_pass, ← Cursor.pass_append]
    exact Cursor.pass_of_append whole
  case looked =>
    simp only [Place.take, Place.pass, Cursor.pass, looked, Lexeme.endMissing, Lexeme.seen,
      List.isEmpty_iff, Bool.false_eq_true, if_false]
    split
    · rfl
    · rename_i nonempty
      rw [Text.lastOffset_append marker nonempty, Nat.add_assoc, Nat.add_assoc, Nat.add_assoc]
  case leads =>
    have taken := Does.takeWhile origin (fun c => c != '\n') (place.pass marker)
    rw [Place.cursor_pass, Cursor.pass, ← Lexeme.restOfLine, line] at taken
    refine ⟨_, (Does.get place).before ?_, Place.glance_glance _⟩
    rw [found]
    apply (Does.pass place marker).before
    apply taken.before
    exact .pure _ _

theorem reads_word (left : place.cursor.rest = first :: rest)
    (opens : Character.opensWord first = true)
    (whole : first :: rest = first :: rest.takeWhile Character.continuesWord ++ after) :
    Reads origin word place (.word (first :: rest.takeWhile Character.continuesWord)) after := by
  have taken := Does.nextIf_holds origin Character.opensWord left opens
  have others := Does.takeWhile origin Character.continuesWord (place.take [first])
  rw [Place.cursor_take, Cursor.pass_of_append left, ← Place.take_append] at others
  refine ⟨_, endsAt_stop (left.trans whole) (List.cons_ne_nil _ _) rfl, _, taken.before ?_,
    Place.glance_glance _⟩
  apply others.before
  exact .pure _ _

theorem reads_character (left : place.cursor.rest = '\'' :: rest)
    (whole : '\'' :: rest = (CharacterLiteral.read rest).text ++ after) :
    Reads origin character place (.character (CharacterLiteral.read rest)) after := by
  refine ⟨_, endsAt_stop (left.trans whole) (List.cons_ne_nil _ _) rfl, ?_⟩
  rw [made_eq_atOnce fun numeral => Lexeme.noConfusion]
  exact stops_character origin left

theorem reads_string (left : place.cursor.rest = '"' :: rest)
    (whole : '"' :: rest = (StringLiteral.read rest).text ++ after) :
    Reads origin string place (.string (StringLiteral.read rest)) after := by
  refine ⟨_, endsAt_stop (left.trans whole) (List.cons_ne_nil _ _) rfl, ?_⟩
  rw [made_eq_atOnce fun numeral => Lexeme.noConfusion]
  exact stops_string origin left

/-- The characters of a number that are looked at are those behind what gives its base. -/
theorem seen_number {numeral : Numeral} (nonempty : numeral.text ≠ []) :
    (Lexeme.number numeral).seen = if behindLead numeral = [] then 1
      else Text.width numeral.lead + Text.lastOffset (behindLead numeral) + 1 := by
  have parts := text_eq_behindLead numeral
  by_cases bare : behindLead numeral = []
  · rw [bare, List.append_nil] at parts
    rw [if_pos bare, Lexeme.seen, parts, if_pos]
    rw [parts] at nonempty
    simp [nonempty]
  · have longer := List.length_pos_iff.mpr bare
    have visible : (!numeral.lead.isEmpty && numeral.text.length == numeral.lead.length) = false := by
      rw [parts, List.length_append, Bool.and_eq_false_iff, beq_eq_false_iff_ne]
      exact Or.inr (by omega)
    rw [if_neg bare, Lexeme.seen, visible, parts, Text.lastOffset_append _ bare]
    rfl

theorem reads_number (left : place.cursor.rest = first :: rest) (digit : first.isDigit = true)
    (whole : first :: rest = (Numeral.read (first :: rest)).text ++ after) :
    Reads origin number place (.number (Numeral.read (first :: rest))) after := by
  have nonempty := Numeral.read_text_ne_nil digit rest
  refine ⟨_, ⟨?cursor, ?looked⟩, stops_number origin left digit rfl whole.symm⟩
  all_goals generalize Numeral.read (first :: rest) = numeral at whole nonempty ⊢
  case cursor =>
    rw [Place.cursor_stop, Place.cursor_pass, Place.cursor_look, ← Cursor.pass_append,
      ← text_eq_behindLead]
    exact Cursor.pass_of_append (left.trans whole)
  case looked =>
    rw [looked_stop, seen_number nonempty, Lexeme.text, text_eq_behindLead, Text.width_append]
    refine congrArg₂ (ite _) ?_ ?_
    · exact congrArg (· + 1) (Nat.add_assoc _ _ _)
    · simp only [Place.take, Place.pass, Place.look, Cursor.pass]
      split
      · rfl
      · simp only [Nat.add_assoc]

theorem reads_symbol {letters : List Char} (found : lexicon.symbolAt? place.cursor.rest = some letters)
    (looked : place.looked = place.cursor.offset + 1)
    (whole : place.cursor.rest = letters ++ after) :
    Reads origin (symbol lexicon) place (.symbol letters) after := by
  refine ⟨place.pass letters, ⟨Cursor.pass_of_append whole, looked⟩, _, (Does.get place).before ?_, rfl⟩
  rw [found]
  apply (Does.pass place letters).before
  exact .pure _ _

theorem reads_invalid (left : place.cursor.rest = first :: rest) :
    Reads origin invalid place (.invalid first) rest := by
  refine ⟨_, endsAt_stop left (List.cons_ne_nil _ _) rfl, _, (Does.next_cons origin left).before ?_, rfl⟩
  apply (Does.report origin (place.take [first]) place.cursor.offset _).before_silent
  exact .pure _ _

/-! ## Parts in turn -/

/-- The first part that reads a lexeme takes it. -/
theorem Reads.here {part : Scan (Option Lexeme)} {lexeme : Lexeme}
    (reads : Reads origin part place lexeme after) (others : List (Scan (Option Lexeme))) :
    Reads origin (firstOf (part :: others)) place lexeme after := by
  obtain ⟨target, ends, next, does, alike⟩ := reads
  exact ⟨target, ends, next, does.before_silent (.pure _ next), alike⟩

/-- Behind a part that gives nothing the others are tried. -/
theorem Reads.later {part : Scan (Option Lexeme)} {others : List (Scan (Option Lexeme))}
    {lexeme : Lexeme} (nothing : Does origin part place none place [])
    (reads : Reads origin (firstOf others) place lexeme after) :
    Reads origin (firstOf (part :: others)) place lexeme after := by
  obtain ⟨target, ends, next, does, alike⟩ := reads
  exact ⟨target, ends, next, nothing.before does, alike⟩

theorem does_comment_none (missing : lexicon.markerAt? place.cursor.rest = none) :
    Does origin (comment lexicon) place none place [] := by
  apply (Does.get place).before
  rw [missing]
  exact .pure _ place

theorem does_symbol_none (missing : lexicon.symbolAt? place.cursor.rest = none) :
    Does origin (symbol lexicon) place none place [] := by
  apply (Does.get place).before
  rw [missing]
  exact .pure _ place

/-- A part that opens with a character of a kind gives nothing where another one stands. -/
theorem does_none_of_nextIf {holds : Char → Bool} {f : Option (Char × Nat) → Scan (Option Lexeme)}
    (other : ∀ c, place.cursor.rest.head? = some c → holds c = false)
    (looked : place.glance = place) (gives : f none = pure none) :
    Does origin (nextIf holds >>= f) place none place [] := by
  have fails := Does.nextIf_fails origin holds other
  rw [looked] at fails
  apply fails.before
  rw [gives]
  exact .pure _ place

theorem does_number_none (other : ∀ c, place.cursor.rest.head? = some c → c.isDigit = false)
    (looked : place.glance = place) : Does origin number place none place [] := by
  cases left : place.cursor.rest with
  | nil => exact (Does.peek_nil origin left).before (.pure _ place)
  | cons c others =>
      have glanced := Does.peek_cons origin left
      rw [← Place.glance_of_cons left, looked] at glanced
      apply glanced.before
      dsimp only
      rw [other c (by rw [left]; rfl)]
      exact .pure _ place

/-- What stands at the cursor is taken as the lexeme that is read there. -/
theorem reads_lexeme (lexicon : Lexicon) (left : place.cursor.rest = first :: rest)
    (looked : place.looked = place.cursor.offset + 1)
    (whole : first :: rest = (Lexeme.read lexicon first rest).text ++ after) :
    Reads origin (lexeme lexicon) place (Lexeme.read lexicon first rest) after := by
  have glanced : place.glance = place := by
    rw [Place.glance_of_cons left]
    exact Place.ext rfl looked.symm
  have atHead {holds : Char → Bool} (other : ¬ holds first = true) :
      ∀ c, place.cursor.rest.head? = some c → holds c = false :=
    forall_head_of_cons left (Bool.eq_false_iff.mpr other)
  have notQuote {quote : Char} (other : first ≠ quote) :
      ∀ c, place.cursor.rest.head? = some c → (c == quote) = false :=
    @atHead (fun c => c == quote) fun same => other (beq_iff_eq.mp same)
  generalize read : Lexeme.read lexicon first rest = lexeme at whole ⊢
  unfold Lexeme.read at read
  rw [← left] at read
  split at read
  case h_1 marker found =>
    subst read
    exact (reads_comment origin found rfl looked (left.trans whole)).here origin _
  case h_2 missing =>
    apply Reads.later origin (does_comment_none origin missing)
    split at read
    case isTrue opens =>
      subst read
      exact (reads_word origin left opens whole).here origin _
    case isFalse other =>
      apply Reads.later origin (does_none_of_nextIf origin (atHead other) glanced rfl)
      split at read
      case isTrue quote =>
        subst read quote
        exact (reads_character origin left whole).here origin _
      case isFalse other =>
        apply Reads.later origin (does_none_of_nextIf origin (notQuote other) glanced rfl)
        split at read
        case isTrue quote =>
          subst read quote
          exact (reads_string origin left whole).here origin _
        case isFalse other =>
          apply Reads.later origin (does_none_of_nextIf origin (notQuote other) glanced rfl)
          split at read
          case isTrue digit =>
            rw [left] at read
            subst read
            exact (reads_number origin left digit whole).here origin _
          case isFalse other =>
            apply Reads.later origin (does_number_none origin (atHead other) glanced)
            split at read
            case h_1 letters found =>
              subst read
              exact (reads_symbol origin found looked (left.trans whole)).here origin _
            case h_2 missing =>
              apply Reads.later origin (does_symbol_none origin missing)
              subst read
              obtain rfl : rest = after := List.tail_eq_of_cons_eq whole
              exact (reads_invalid origin left).here origin _

/-- At the end of a text nothing is taken. -/
theorem does_lexeme_none (lexicon : Lexicon) (atEnd : place.cursor.rest = []) :
    Does origin (lexeme lexicon) place none place [] := by
  have glanced := Place.glance_of_nil atEnd
  have atHead {holds : Char → Bool} : ∀ c, place.cursor.rest.head? = some c → holds c = false :=
    forall_head_of_nil atEnd
  have marker : lexicon.markerAt? place.cursor.rest = none := by
    refine Option.eq_none_iff_forall_ne_some.mpr fun letters found => ?_
    obtain ⟨nonempty, heads⟩ := Lexicon.markerAt?_some found
    exact nonempty (List.prefix_nil.mp (atEnd ▸ heads))
  have symbol : lexicon.symbolAt? place.cursor.rest = none := by
    refine Option.eq_none_iff_forall_ne_some.mpr fun letters found => ?_
    obtain ⟨nonempty, heads⟩ := Lexicon.symbolAt?_some found
    exact nonempty (List.prefix_nil.mp (atEnd ▸ heads))
  have taken : Does origin next place none place [] :=
    (Does.peek_nil origin atEnd).before (.pure none place)
  have invalid : Does origin invalid place none place [] := taken.before (.pure none place)
  apply (does_comment_none origin marker).before
  apply (does_none_of_nextIf origin atHead glanced rfl).before
  apply (does_none_of_nextIf origin atHead glanced rfl).before
  apply (does_none_of_nextIf origin atHead glanced rfl).before
  apply (does_number_none origin atHead glanced).before
  apply (does_symbol_none origin symbol).before
  exact invalid.before (.pure none place)

end

end Scan

end Lexing
