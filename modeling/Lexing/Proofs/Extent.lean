import Lexing.Diagnostic
import Lexing.Position
import Lexing.Proofs.Segmentation

/-! # Where faults are found

Findings are made between the characters of their lexeme, at the latest at its end, so a reading looks
no further than one byte past its text. -/

namespace Lexing

/-- The diagnostic of a finding in a text that starts at a position. -/
def Lexeme.Finding.diagnostic (origin : Nat) (finding : Lexeme.Finding) : Diagnostic :=
  ⟨some (origin + finding.offset), finding.fault.message⟩

/-! ## Findings stay inside their lexeme -/

namespace Lexeme

/-- A finding is made in a text that starts at an offset: before one of its characters, or at its
end. -/
def Finding.IsIn (start : Nat) (text : List Char) (finding : Finding) : Prop :=
  ∃ before after, text = before ++ after ∧ finding.offset = start + Text.width before

namespace Finding.IsIn

variable {start : Nat} {text : List Char} {finding : Finding}

theorem append_right (inside : finding.IsIn start text) (behind : List Char) :
    finding.IsIn start (text ++ behind) := by
  obtain ⟨before, after, rfl, place⟩ := inside
  exact ⟨before, after ++ behind, List.append_assoc .., place⟩

theorem append_left (ahead : List Char) (inside : finding.IsIn (start + Text.width ahead) text) :
    finding.IsIn start (ahead ++ text) := by
  obtain ⟨before, after, rfl, place⟩ := inside
  refine ⟨ahead ++ before, after, (List.append_assoc ..).symm, ?_⟩
  rw [place, Text.width_append, Nat.add_assoc]

theorem shift (inside : finding.IsIn 0 text) (distance : Nat) :
    (finding.shift distance).IsIn distance text := by
  obtain ⟨before, after, whole, place⟩ := inside
  refine ⟨before, after, whole, ?_⟩
  rw [Finding.shift, place, Nat.zero_add]

theorem offset_le (inside : finding.IsIn start text) : finding.offset ≤ start + Text.width text := by
  obtain ⟨before, after, rfl, place⟩ := inside
  rw [place, Text.width_append]
  omega

end Finding.IsIn

theorem Numeral.isIn_foreignDigits (base : Base) (offset : Nat) (places : List Char) :
    ∀ finding ∈ Numeral.foreignDigits base offset [] places, finding.IsIn offset places := by
  induction places generalizing offset with
  | nil => exact fun finding member => absurd member List.not_mem_nil
  | cons c rest ih =>
      intro finding member
      rw [Numeral.foreignDigits, foreignDigits_append, List.mem_append] at member
      rcases member with here | later
      · split at here
        · rw [List.reverse_singleton, List.mem_singleton] at here
          rw [here]
          exact ⟨[], c :: rest, rfl, rfl⟩
        · exact absurd here List.not_mem_nil
      · exact .append_left [c] (ih _ finding later)

theorem Numeral.isIn_endFindings (numeral : Numeral) :
    ∀ finding ∈ numeral.endFindings, finding.IsIn 0 numeral.text := by
  have atBody (fault : Fault) : Finding.IsIn 0 numeral.text ⟨Text.width numeral.body, fault⟩ :=
    ⟨numeral.body, numeral.suffix, rfl, (Nat.zero_add _).symm⟩
  intro finding member
  unfold Numeral.endFindings at member
  split at member
  · split at member
    · split at member
      · exact absurd member List.not_mem_nil
      · rw [List.mem_singleton.mp member]
        exact atBody _
    · exact absurd member List.not_mem_nil
  · rw [List.mem_singleton.mp member]
    exact atBody _

theorem Numeral.isIn_findings (numeral : Numeral) :
    ∀ finding ∈ numeral.findings, finding.IsIn 0 numeral.text := by
  intro finding member
  rcases List.mem_append.mp member with digit | ending
  · have inside := isIn_foreignDigits _ _ _ finding digit
    rw [← Nat.zero_add (Text.width _)] at inside
    simp only [Numeral.text, Numeral.body]
    exact (((inside.append_left _).append_right _).append_right _).append_right _
  · exact numeral.isIn_endFindings finding ending

theorem Piece.isIn_findings (piece : Piece) :
    ∀ finding ∈ piece.findings, finding.IsIn 0 piece.text := by
  intro finding member
  cases piece with
  | plain c => exact absurd member List.not_mem_nil
  | named letter =>
      rw [Piece.findings] at member
      split at member
      · rw [List.mem_singleton.mp member]
        exact ⟨['\\'], [letter], rfl, rfl⟩
      · exact absurd member List.not_mem_nil
  | hex high low => exact absurd member List.not_mem_nil
  | brokenHex high stop =>
      cases stop with
      | none => exact absurd member List.not_mem_nil
      | some stop =>
          rw [List.mem_singleton.mp member]
          refine ⟨_, [], (List.append_nil _).symm, ?_⟩
          have backslash : '\\'.utf8Size = 1 := rfl
          have letter : 'x'.utf8Size = 1 := rfl
          simp only [Piece.text, Text.width_cons]
          omega
  | dangling => exact absurd member List.not_mem_nil

theorem isIn_pieceFindings (offset : Nat) (pieces : List Piece) :
    ∀ finding ∈ pieceFindings offset [] pieces,
      finding.IsIn offset (pieces.flatMap Piece.text) := by
  induction pieces generalizing offset with
  | nil => exact fun finding member => absurd member List.not_mem_nil
  | cons piece rest ih =>
      intro finding member
      rw [pieceFindings, pieceFindings_append, List.append_nil, List.reverse_reverse,
        List.mem_append] at member
      rw [List.flatMap_cons]
      rcases member with here | later
      · obtain ⟨original, found, rfl⟩ := List.mem_map.mp here
        exact ((piece.isIn_findings original found).shift offset).append_right _
      · exact (ih _ finding later).append_left _

theorem StringLiteral.isIn_findings (literal : StringLiteral) :
    ∀ finding ∈ literal.findings, finding.IsIn 0 literal.text := by
  intro finding member
  rcases List.mem_append.mp member with inner | ending
  · have inside := (isIn_pieceFindings 1 literal.pieces finding inner).append_right
      (closing '"' literal.closed)
    exact .append_left ['"'] inside
  · split at ending
    · exact absurd ending List.not_mem_nil
    · rw [List.mem_singleton.mp ending]
      exact ⟨'"' :: literal.body, closing '"' literal.closed, rfl, (Nat.zero_add _).symm⟩

theorem CharacterLiteral.isIn_findings (literal : CharacterLiteral) :
    ∀ finding ∈ literal.findings, finding.IsIn 0 literal.text := by
  intro finding member
  simp only [CharacterLiteral.findings, List.mem_append] at member
  rcases member with ((empty | first) | several) | unclosed
  · split at empty
    · rw [List.mem_singleton.mp empty]
      exact ⟨['\''], _, rfl, rfl⟩
    · exact absurd empty List.not_mem_nil
  · cases opened : literal.first with
    | none =>
        rw [opened] at first
        exact absurd first List.not_mem_nil
    | some piece =>
        rw [opened] at first
        obtain ⟨original, found, rfl⟩ := List.mem_map.mp first
        have inside := (piece.isIn_findings original found).shift 1
        rw [CharacterLiteral.text, body, opened, firstText]
        exact .append_left ['\''] ((inside.append_right _).append_right _)
  · split at several
    · exact absurd several List.not_mem_nil
    · rw [List.mem_singleton.mp several]
      refine ⟨'\'' :: firstText literal.first, literal.extra ++ closing '\'' literal.closed, ?_,
        (Nat.zero_add _).symm⟩
      rw [CharacterLiteral.text, body, List.append_assoc, List.cons_append]
  · split at unclosed
    · exact absurd unclosed List.not_mem_nil
    · rw [List.mem_singleton.mp unclosed]
      exact ⟨'\'' :: literal.body, closing '\'' literal.closed, rfl, (Nat.zero_add _).symm⟩

/-- Every fault of a lexeme is reported before one of its characters or at its end. -/
theorem isIn_findings (lexeme : Lexeme) :
    ∀ finding ∈ lexeme.findings, finding.IsIn 0 lexeme.text := by
  intro finding member
  cases lexeme with
  | comment marker body => exact absurd member List.not_mem_nil
  | word letters => exact absurd member List.not_mem_nil
  | character literal => exact literal.isIn_findings finding member
  | string literal => exact literal.isIn_findings finding member
  | number numeral => exact numeral.isIn_findings finding member
  | symbol letters => exact absurd member List.not_mem_nil
  | invalid c =>
      rw [List.mem_singleton.mp member]
      exact ⟨[], [c], rfl, rfl⟩

/-! ## Which fault is whose -/

/-- A fault of pieces in a row is a fault of one of them. -/
theorem exists_piece_of_mem {offset : Nat} {pieces : List Piece} {finding : Finding}
    (found : finding ∈ pieceFindings offset [] pieces) :
    ∃ piece ∈ pieces, ∃ inner ∈ piece.findings, finding.fault = inner.fault := by
  induction pieces generalizing offset with
  | nil => exact absurd found List.not_mem_nil
  | cons first rest ih =>
      rw [pieceFindings, pieceFindings_append, List.append_nil, List.reverse_reverse,
        List.mem_append] at found
      rcases found with here | later
      · obtain ⟨inner, member, rfl⟩ := List.mem_map.mp here
        exact ⟨first, List.mem_cons_self, inner, member, rfl⟩
      · obtain ⟨piece, member, inner⟩ := ih later
        exact ⟨piece, List.mem_cons_of_mem _ member, inner⟩

theorem Piece.fault_ne_invalidSuffix (piece : Piece) (suffix : List Char) :
    ∀ finding ∈ piece.findings, finding.fault ≠ .invalidSuffix suffix := by
  intro finding member same
  cases piece with
  | named letter =>
      rw [Piece.findings, List.mem_ite_nil_right, List.mem_singleton] at member
      obtain ⟨-, rfl⟩ := member
      cases same
  | brokenHex high stop =>
      cases stop with
      | none => cases member
      | some stop =>
          obtain rfl := List.mem_singleton.mp member
          cases same
  | _ => cases member

theorem Numeral.exists_digit_of_mem {base : Base} {offset : Nat} {places : List Char}
    {finding : Finding} (found : finding ∈ foreignDigits base offset [] places) :
    ∃ digit ∈ places, finding.fault = .foreignDigit digit base := by
  induction places generalizing offset with
  | nil => exact absurd found List.not_mem_nil
  | cons c rest ih =>
      rw [foreignDigits, foreignDigits_append, List.mem_append] at found
      rcases found with here | later
      · split at here
        · rw [List.reverse_singleton, List.mem_singleton] at here
          exact ⟨c, List.mem_cons_self, by rw [here]⟩
        · cases here
      · obtain ⟨digit, member, same⟩ := ih later
        exact ⟨digit, List.mem_cons_of_mem _ member, same⟩

theorem StringLiteral.fault_ne_invalidSuffix (literal : StringLiteral) (suffix : List Char) :
    ∀ finding ∈ literal.findings, finding.fault ≠ .invalidSuffix suffix := by
  intro finding found isSuffix
  rcases List.mem_append.mp found with inner | ending
  · obtain ⟨piece, _, fault, member, same⟩ := exists_piece_of_mem inner
    exact piece.fault_ne_invalidSuffix suffix fault member (same.symm.trans isSuffix)
  · rw [List.mem_ite_nil_left, List.mem_singleton] at ending
    obtain ⟨-, rfl⟩ := ending
    cases isSuffix

theorem CharacterLiteral.fault_ne_invalidSuffix (literal : CharacterLiteral) (suffix : List Char) :
    ∀ finding ∈ literal.findings, finding.fault ≠ .invalidSuffix suffix := by
  intro finding found isSuffix
  simp only [findings, List.mem_append, List.mem_ite_nil_left, List.mem_ite_nil_right,
    List.mem_singleton] at found
  rcases found with ((⟨-, rfl⟩ | first) | ⟨-, rfl⟩) | ⟨-, rfl⟩
  · cases isSuffix
  · cases opened : literal.first with
    | none =>
        rw [opened] at first
        cases first
    | some piece =>
        rw [opened] at first
        obtain ⟨fault, member, rfl⟩ := List.mem_map.mp first
        exact piece.fault_ne_invalidSuffix suffix fault member isSuffix
  · cases isSuffix
  · cases isSuffix

/-- Only a number has a suffix. -/
theorem fault_ne_invalidSuffix {lexeme : Lexeme} (other : ∀ numeral, lexeme ≠ .number numeral)
    (suffix : List Char) : ∀ finding ∈ lexeme.findings, finding.fault ≠ .invalidSuffix suffix := by
  intro finding found
  cases lexeme with
  | number numeral => exact absurd rfl (other numeral)
  | string literal => exact literal.fault_ne_invalidSuffix suffix finding found
  | character literal => exact literal.fault_ne_invalidSuffix suffix finding found
  | invalid c =>
      obtain rfl := List.mem_singleton.mp found
      exact Fault.noConfusion
  | _ => cases found

theorem seen_pos (lexeme : Lexeme) : 0 < lexeme.seen := by
  unfold Lexeme.seen
  split
  · split <;> exact Nat.succ_pos _
  · exact Nat.one_pos
  · split <;> exact Nat.succ_pos _
  · exact Nat.succ_pos _

/-- Only characters of a lexeme are looked at on its behalf. -/
theorem seen_le_width (lexeme : Lexeme) (nonempty : lexeme.text ≠ []) :
    lexeme.seen ≤ Text.width lexeme.text := by
  have last := Text.lastOffset_lt_width nonempty
  unfold Lexeme.seen
  split
  · split
    · omega
    · exact last
  · omega
  · split
    · omega
    · exact last
  · exact last

end Lexeme

/-! ## The extent of a reading -/

/-- Whether all offsets up to an extent have positions in a text that starts at one. Where nothing is
looked at none is needed. -/
def Position.fits (origin extent : Nat) : Bool :=
  extent == 0 || decide (origin + extent ≤ Position.limit)

theorem Position.fits_of_le {origin extent other : Nat} (less : extent ≤ other)
    (fits : Position.fits origin other = true) : Position.fits origin extent = true := by
  simp only [Position.fits, Bool.or_eq_true, beq_iff_eq, decide_eq_true_eq] at fits ⊢
  omega

theorem Position.fits_succ {origin offset : Nat} :
    Position.fits origin (offset + 1) = true ↔ origin + offset < Position.limit := by
  simp only [Position.fits, Bool.or_eq_true, beq_iff_eq, decide_eq_true_eq]
  omega

theorem foldl_max_le {bound : Nat} (values : List Nat) (first : Nat) (start : first ≤ bound)
    (each : ∀ value ∈ values, value ≤ bound) : values.foldl max first ≤ bound := by
  induction values generalizing first with
  | nil => exact start
  | cons value rest ih =>
      exact ih (max first value) (Nat.max_le.mpr ⟨start, each value List.mem_cons_self⟩)
        fun other member => each other (List.mem_cons_of_mem _ member)

theorem le_foldl_max (values : List Nat) (first : Nat) :
    first ≤ values.foldl max first ∧ ∀ value ∈ values, value ≤ values.foldl max first := by
  induction values generalizing first with
  | nil => exact ⟨Nat.le_refl _, fun value member => absurd member List.not_mem_nil⟩
  | cons head rest ih =>
      obtain ⟨start, others⟩ := ih (max first head)
      refine ⟨(Nat.le_max_left first head).trans start, fun value member => ?_⟩
      rcases List.mem_cons.mp member with rfl | later
      · exact (Nat.le_max_right first value).trans start
      · exact others value later

/-- A bound that is attained is the greatest. -/
theorem foldl_max_eq {bound : Nat} {values : List Nat} {first : Nat} (start : first ≤ bound)
    (each : ∀ value ∈ values, value ≤ bound) (attained : bound = first ∨ bound ∈ values) :
    values.foldl max first = bound := by
  apply Nat.le_antisymm (foldl_max_le values first start each)
  obtain ⟨least, others⟩ := le_foldl_max values first
  rcases attained with rfl | member
  · exact least
  · exact others bound member

variable {lexicon : Lexicon} {offset : Nat} {text : List Char} {segment : Segment}

/-- A finding of a segment is made in its lexeme, where that starts. -/
theorem Segment.isIn_findings {finding : Lexeme.Finding} (found : finding ∈ segment.findings) :
    finding.IsIn segment.start segment.lexeme.text := by
  obtain ⟨original, member, rfl⟩ := List.mem_map.mp found
  exact (segment.lexeme.isIn_findings original member).shift segment.start

/-- A finding is made in the text or at its end. -/
theorem Segment.StandsIn.finding_offset_le (stands : segment.StandsIn lexicon offset text)
    {finding : Lexeme.Finding} (found : finding ∈ segment.findings) :
    finding.offset ≤ offset + Text.width text := by
  have finish := stands.finish_le
  have inside := (Segment.isIn_findings found).offset_le
  rw [Segment.finish] at finish
  omega

/-- When a fault is found the reading has looked no further than at what follows its lexeme. -/
theorem Segment.reach_le (visible : segment.lexeme.text ≠ []) {finding : Lexeme.Finding}
    (found : finding ∈ segment.findings) : segment.reach finding ≤ segment.finish + 1 := by
  have inside := (Segment.isIn_findings found).offset_le
  have last := Text.lastOffset_lt_width visible
  unfold Segment.reach Segment.finish
  split
  · split <;> omega
  · exact Nat.succ_le_succ inside

theorem Segment.extent_le (visible : segment.lexeme.text ≠ []) :
    segment.extent ≤ segment.finish + 1 := by
  apply foldl_max_le
  · have seen := segment.lexeme.seen_le_width visible
    rw [Segment.finish]
    omega
  · intro reached member
    obtain ⟨finding, found, rfl⟩ := List.mem_map.mp member
    exact segment.reach_le visible found

theorem Segment.start_lt_extent (segment : Segment) : segment.start < segment.extent := by
  have positive := segment.lexeme.seen_pos
  have first := (le_foldl_max (segment.findings.map segment.reach)
    (segment.start + segment.lexeme.seen)).1
  rw [extent]
  omega

namespace Reading

theorem tailStart_add_width (lexicon : Lexicon) (text : List Char) :
    (ofText lexicon text).tailStart + Text.width (ofText lexicon text).blankTail =
      Text.width text := by
  have split := (segmentation lexicon 0 text).tailStart_add_width
  rw [Nat.zero_add] at split
  rw [← split]
  unfold tailStart ofText
  cases (readAfter lexicon 0 [] text).segments.getLast? <;> rfl

theorem standsIn_of_mem {lexicon : Lexicon} {text : List Char} {segment : Segment}
    (member : segment ∈ (ofText lexicon text).segments) : segment.StandsIn lexicon 0 text :=
  (segmentation lexicon 0 text).standsIn segment member

/-- No segment starts behind its text. -/
theorem start_le_of_mem {lexicon : Lexicon} {text : List Char} {segment : Segment}
    (member : segment ∈ (ofText lexicon text).segments) : segment.start ≤ Text.width text := by
  have bound := (standsIn_of_mem member).finish_le
  rw [Segment.finish] at bound
  omega

theorem finding_offset_le {lexicon : Lexicon} {text : List Char} {entry : Lexeme.Finding × Nat}
    (member : entry ∈ (ofText lexicon text).findings) : entry.1.offset ≤ Text.width text := by
  obtain ⟨segment, stands, reported⟩ := List.mem_flatMap.mp member
  obtain ⟨finding, found, rfl⟩ := List.mem_map.mp reported
  have bound := (standsIn_of_mem stands).finding_offset_le found
  rwa [Nat.zero_add] at bound

/-- A reading looks at most one byte past its text. -/
theorem extent_le (lexicon : Lexicon) (text : List Char) :
    (ofText lexicon text).extent ≤ Text.width text + 1 := by
  apply foldl_max_le
  · split
    · exact Nat.zero_le _
    · rename_i visible
      have nonempty : (ofText lexicon text).blankTail ≠ [] := fun empty => visible (by simp [empty])
      have last := Text.lastOffset_lt_width nonempty
      have split := tailStart_add_width lexicon text
      omega
  · intro reached member
    obtain ⟨segment, found, rfl⟩ := List.mem_map.mp member
    have stands := standsIn_of_mem found
    have bound := stands.finish_le
    have extent := segment.extent_le stands.text_ne_nil
    omega

/-- What a reading of a text that starts at a position reports. -/
def diagnostics (reading : Reading) (origin : Nat) : List Diagnostic :=
  reading.findings.map fun (finding, _) => finding.diagnostic origin

/-- What is reported of a text that starts at a position before an offset that is looked at has none. -/
def diagnosticsThatFit (reading : Reading) (origin : Nat) : List Diagnostic :=
  (reading.findings.takeWhile fun (_, reach) => Position.fits origin reach).map
    fun (finding, _) => finding.diagnostic origin

end Reading

/-- What is wrong with a segment, each with the offset after the last one looked at by then. -/
def Segment.made (segment : Segment) : List (Lexeme.Finding × Nat) :=
  segment.findings.map fun finding => (finding, segment.reach finding)

/-- What is wrong with a segment of a text that starts at a position. -/
def Segment.diagnostics (origin : Nat) (segment : Segment) : List Diagnostic :=
  segment.findings.map (Lexeme.Finding.diagnostic origin)

theorem Reading.diagnostics_eq (reading : Reading) (origin : Nat) :
    reading.diagnostics origin = reading.segments.flatMap (Segment.diagnostics origin) := by
  simp only [diagnostics, findings, List.map_flatMap, List.map_map]
  rfl

theorem Segment.diagnostics_eq_nil_iff (origin : Nat) (segment : Segment) :
    segment.diagnostics origin = [] ↔ segment.lexeme.findings = [] := by
  rw [diagnostics, findings, List.map_map, List.map_eq_nil_iff]

end Lexing
