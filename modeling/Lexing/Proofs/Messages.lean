import Lexing.Proofs.Lines
import Lexing.Proofs.Strict
import Lexing.Proofs.Translation

/-! # Line breaks in messages

Some messages name characters of the source. A line break is none of them, but in one case: a
hexadecimal escape that the end of its line cuts short is said to stop at the line break. Such a fault
is found at the end of a line that ends in the escape, so a text without such lines has no message with
a line break. -/

namespace Lexing

open Text (EndsInEscape)

namespace Lexeme

/-! ## What messages name -/

/-- The characters of the source that the message of a fault names. -/
def Fault.named : Fault → List Char
  | .unexpected c => [c]
  | .unknownEscape letter => [letter]
  | .foreignDigit digit _ => [digit]
  | .invalidSuffix suffix => suffix
  | _ => []

/-- A message is what it names between two texts without line breaks. -/
theorem Fault.exists_message_eq (fault : Fault) :
    ∃ opening closing, fault.message = opening ++ String.ofList fault.named ++ closing ∧
      '\n' ∉ opening.toList ∧ '\n' ∉ closing.toList := by
  have single (c : Char) : c.toString = String.ofList [c] := rfl
  have regrouped (first second third fourth fifth : String) :
      first ++ second ++ third ++ fourth ++ fifth =
        first ++ second ++ (third ++ (fourth ++ fifth)) := by
    rw [String.append_assoc, String.append_assoc]
  cases fault with
  | unexpected c => exact ⟨_, _, congrArg (_ ++ · ++ _) (single c), by decide, by decide⟩
  | emptyCharacter => exact ⟨message .emptyCharacter, "", by decide, by decide, by decide⟩
  | severalCharacters => exact ⟨message .severalCharacters, "", by decide, by decide, by decide⟩
  | unclosed quotation =>
      refine ⟨message (.unclosed quotation), "", ?_, ?_, by decide⟩ <;> cases quotation <;> decide
  | unknownEscape letter => exact ⟨_, _, congrArg (_ ++ · ++ _) (single letter), by decide, by decide⟩
  | foreignDigit digit base =>
      refine ⟨"Cannot use '", "' in " ++ (toString base.radix ++ "-base integer literal"), ?_,
        by decide, ?_⟩
      · exact regrouped _ _ _ _ _
      · cases base <;> decide
  | exponentWithoutDigits =>
      exact ⟨message .exponentWithoutDigits, "", by decide, by decide, by decide⟩
  | invalidSuffix suffix => exact ⟨_, _, rfl, by decide, by decide⟩

/-- A message has a line break only where it names one. -/
theorem Fault.newline_mem_message_iff (fault : Fault) :
    '\n' ∈ fault.message.toList ↔ '\n' ∈ fault.named := by
  obtain ⟨opening, closing, same, opens, closes⟩ := fault.exists_message_eq
  rw [same, String.toList_append, String.toList_append, List.mem_append, List.mem_append,
    or_iff_left closes, or_iff_right opens, String.toList_ofList]

/-- A finding where the end of a line cuts a hexadecimal escape short, in a text that starts at an
offset: it is made at the line break and names it. -/
def Finding.CutByLine (start : Nat) (text : List Char) (finding : Finding) : Prop :=
  finding.fault = .unexpected '\n' ∧ ∃ before after, text = before ++ '\n' :: after ∧
    EndsInEscape before ∧ finding.offset = start + Text.width before

/-- Findings in a text that starts at an offset, of which only those at cut escapes name a line break. -/
def Finding.NamesInLines (start : Nat) (text : List Char) (findings : List Finding) : Prop :=
  ∀ finding ∈ findings, '\n' ∈ finding.fault.named → finding.CutByLine start text

namespace Finding

variable {start : Nat} {text : List Char} {findings : List Finding}

theorem CutByLine.append_left {finding : Finding} (ahead : List Char)
    (cut : finding.CutByLine (start + Text.width ahead) text) :
    finding.CutByLine start (ahead ++ text) := by
  obtain ⟨fault, before, after, rfl, ends, place⟩ := cut
  refine ⟨fault, ahead ++ before, after, (List.append_assoc ..).symm, ends.append_left ahead, ?_⟩
  rw [place, Text.width_append, Nat.add_assoc]

namespace NamesInLines

theorem nil (start : Nat) (text : List Char) : NamesInLines start text [] :=
  fun _ impossible => absurd impossible List.not_mem_nil

theorem of_unnamed (unnamed : ∀ finding ∈ findings, '\n' ∉ finding.fault.named) :
    NamesInLines start text findings :=
  fun finding found names => absurd names (unnamed finding found)

theorem singleton {finding : Finding} (unnamed : '\n' ∉ finding.fault.named) :
    NamesInLines start text [finding] :=
  of_unnamed (List.forall_mem_singleton.mpr unnamed)

theorem append {behind : List Finding} (lined : NamesInLines start text findings)
    (next : NamesInLines start text behind) : NamesInLines start text (findings ++ behind) :=
  List.forall_mem_append.mpr ⟨lined, next⟩

theorem append_left (ahead : List Char)
    (lined : NamesInLines (start + Text.width ahead) text findings) :
    NamesInLines start (ahead ++ text) findings :=
  fun finding found names => (lined finding found names).append_left ahead

theorem shift (lined : NamesInLines 0 text findings) (distance : Nat) :
    NamesInLines distance text (findings.map (Finding.shift distance)) := by
  refine List.forall_mem_map.mpr fun finding found names => ?_
  obtain ⟨fault, before, after, whole, ends, place⟩ := lined finding found names
  refine ⟨fault, before, after, whole, ends, ?_⟩
  rw [Finding.shift, place, Nat.zero_add]

end NamesInLines

end Finding

open Finding (NamesInLines)

/-! ## Quoted literals -/

/-- A hexadecimal escape names no line break but the one that cuts it short. -/
theorem Piece.namesInLines_readHex (rest : List Char) :
    NamesInLines 0 ('\\' :: 'x' :: rest) (readHex rest).1.findings := by
  rcases readHex_cases rest with ⟨high, low, after, rfl, isHigh, isLow⟩ |
    ⟨high, after, rfl, digit, stops⟩
  · simp only [readHex, isHigh, isLow, Bool.false_eq_true, if_false]
    exact .nil 0 _
  · rw [readHex_of_stop digit stops]
    intro finding found names
    cases after with
    | nil => exact absurd found List.not_mem_nil
    | cons stop after =>
        obtain rfl := List.mem_singleton.mp found
        obtain rfl := List.mem_singleton.mp names
        refine ⟨rfl, '\\' :: 'x' :: high.toList, after, rfl, ?ends, ?place⟩
        case ends =>
          refine ⟨[], high.toList, rfl, ?_, fun d member => ?_⟩
          · cases high <;> simp
          · have present := digit d (by simpa using member)
            simpa using present
        case place =>
          have backslash : '\\'.utf8Size = 1 := rfl
          have letter : 'x'.utf8Size = 1 := rfl
          simp only [Text.width_cons]
          omega

theorem Piece.namesInLines_readEscape (rest : List Char) :
    NamesInLines 0 ('\\' :: rest) (readEscape rest).1.findings := by
  cases rest with
  | nil => exact .nil 0 _
  | cons letter rest =>
      by_cases line : letter = '\n'
      · rw [readEscape, if_pos line]
        exact .nil 0 _
      · by_cases hexadecimal : letter = 'x'
        · rw [readEscape, if_neg line, if_pos hexadecimal, hexadecimal]
          exact namesInLines_readHex rest
        · rw [readEscape, if_neg line, if_neg hexadecimal, Piece.findings]
          split
          · exact .singleton fun names => line (List.mem_singleton.mp names).symm
          · exact .nil 0 _

theorem PiecesOf.namesInLines {text after : List Char} {found : List Piece}
    (fallen : PiecesOf text found after) (start : Nat) :
    NamesInLines start text (pieceFindings start [] found) := by
  induction fallen generalizing start with
  | stop stops => exact .nil start _
  | @plain c rest after found inside notEscape behind ih =>
      exact .append_left [c] (ih (start + Text.width [c]))
  | @escape rest after found behind ih =>
      rw [pieceFindings, pieceFindings_append, List.append_nil, List.reverse_reverse]
      refine ((Piece.namesInLines_readEscape rest).shift start).append ?_
      rw [← Piece.text_readEscape rest]
      exact .append_left _ (ih _)

theorem StringLiteral.namesInLines_read (text : List Char) :
    NamesInLines 0 ('"' :: text) (read text).findings := by
  obtain ⟨after, fallen⟩ := PiecesOf.exists_after text
  rw [fallen.read_eq]
  refine .append (.append_left ['"'] (fallen.namesInLines 1)) ?_
  split
  · exact .nil 0 _
  · exact .singleton List.not_mem_nil

theorem CharacterLiteral.namesInLines_splitFirst (text : List Char) :
    NamesInLines 0 text (match (splitFirst text).1 with
      | none => []
      | some piece => piece.findings) := by
  cases text with
  | nil => exact .nil 0 _
  | cons first rest =>
      by_cases stops : first = '\'' ∨ first = '\n'
      · rw [splitFirst, if_pos stops]
        exact .nil 0 _
      · by_cases escape : first = '\\'
        · rw [splitFirst, if_neg stops, if_pos escape, escape]
          exact Piece.namesInLines_readEscape rest
        · rw [splitFirst, if_neg stops, if_neg escape]
          exact .nil 0 _

theorem CharacterLiteral.namesInLines_read (text : List Char) :
    NamesInLines 0 ('\'' :: text) (read text).findings := by
  have first : NamesInLines 0 ('\'' :: text) (match (read text).first with
      | none => []
      | some piece => piece.findings.map (Finding.shift 1)) := by
    have lined := (namesInLines_splitFirst text).shift 1
    rw [read]
    cases split : (splitFirst text).1 with
    | none => exact .nil 0 _
    | some piece =>
        rw [split] at lined
        exact .append_left ['\''] lined
  refine .append (.append (.append ?empty first) ?several) ?unclosed
  case empty =>
    split
    · exact .singleton List.not_mem_nil
    · exact .nil 0 _
  case several =>
    split
    · exact .nil 0 _
    · exact .singleton List.not_mem_nil
  case unclosed =>
    split
    · exact .nil 0 _
    · exact .singleton List.not_mem_nil

/-! ## Numbers -/

/-- No suffix holds a line break. -/
theorem SuffixRule.newline_notMem {suffix after : List Char} (rule : SuffixRule suffix after) :
    '\n' ∉ suffix := by
  cases rule with
  | letters opens run =>
      refine fun member => ?_
      rcases List.mem_cons.mp member with rfl | later
      · exact absurd opens (by decide)
      · exact absurd (run.inside _ later) (by decide)
  | absent other => exact List.not_mem_nil

/-- What a number names is a place or a suffix, and neither holds a line break. -/
theorem Numeral.newline_notMem_named (text : List Char) :
    ∀ finding ∈ (read text).findings, '\n' ∉ finding.fault.named := by
  obtain ⟨after, _, stands⟩ := standsBefore_read text
  generalize read text = numeral at stands
  intro finding found
  rcases List.mem_append.mp found with digit | ending
  · obtain ⟨place, member, named⟩ := exists_digit_of_mem digit
    rw [named]
    intro line
    rw [← List.mem_singleton.mp line] at member
    exact absurd (stands.places.inside _ member) (by rw [Base.isPlace_newline]; decide)
  · unfold endFindings at ending
    split at ending
    · split at ending
      · rw [List.mem_ite_nil_left, List.mem_singleton] at ending
        obtain ⟨-, rfl⟩ := ending
        exact List.not_mem_nil
      · exact absurd ending List.not_mem_nil
    · obtain rfl := List.mem_singleton.mp ending
      exact stands.ending.newline_notMem

/-! ## Texts -/

/-- A lexeme that a visible character opens names no other line breaks. -/
theorem namesInLines_read (lexicon : Lexicon) {first : Char} (rest : List Char)
    (visible : Character.isBlank first = false) :
    NamesInLines 0 (first :: rest) (read lexicon first rest).findings := by
  refine read_cases lexicon first rest ?comment ?word ?character ?string ?number ?symbol ?invalid
  case comment => exact fun _ _ => .nil 0 _
  case word => exact fun _ => .nil 0 _
  case character =>
    rintro rfl
    exact CharacterLiteral.namesInLines_read rest
  case string =>
    rintro rfl
    exact StringLiteral.namesInLines_read rest
  case number => exact fun _ => .of_unnamed (Numeral.newline_notMem_named (first :: rest))
  case symbol => exact fun _ => .nil 0 _
  case invalid =>
    refine .singleton fun names => ?_
    rw [← List.mem_singleton.mp names] at visible
    cases visible

end Lexeme

theorem Reading.cutByLine_of_mem {lexicon : Lexicon} {text : List Char}
    {entry : Lexeme.Finding × Nat} (found : entry ∈ (ofText lexicon text).findings)
    (names : '\n' ∈ entry.1.fault.named) : entry.1.CutByLine 0 text := by
  obtain ⟨segment, member, reported⟩ := List.mem_flatMap.mp found
  obtain ⟨finding, made, rfl⟩ := List.mem_map.mp reported
  cases standsIn_of_mem member with
  | intro before first rest after visible whole =>
      have lined := (Lexeme.namesInLines_read lexicon rest visible).shift (0 + Text.width before)
      exact lined.append_left before finding made names

/-- The diagnostic of a file where the end of a line cuts a hexadecimal escape short. -/
def Source.File.CutByLine (file : File) (diagnostic : Diagnostic) : Prop :=
  ∃ left right, file.text.toList = left ++ '\n' :: right ∧ EndsInEscape left ∧
    diagnostic = ⟨some (file.offset + Text.width left), "Unexpected char '\n'"⟩

/-- The message of a diagnostic has a line break exactly if the end of a line cuts an escape short. -/
theorem Source.File.newline_mem_message_iff {file : File} {lexicon : Lexicon}
    {diagnostic : Diagnostic} (member : diagnostic ∈ file.diagnostics lexicon) :
    '\n' ∈ diagnostic.message.toList ↔ file.CutByLine diagnostic := by
  obtain ⟨entry, found, rfl⟩ := List.mem_map.mp member
  constructor
  · intro line
    obtain ⟨fault, left, right, whole, ends, place⟩ :=
      Reading.cutByLine_of_mem found (entry.1.fault.newline_mem_message_iff.mp line)
    have message : entry.1.fault.message = "Unexpected char '\n'" := by
      rw [fault]
      decide
    refine ⟨left, right, whole, ends, ?_⟩
    change Diagnostic.mk (some (file.offset + entry.1.offset)) entry.1.fault.message = _
    rw [message, place, Nat.zero_add]
  · rintro ⟨left, right, whole, ends, same⟩
    have names : '\n' ∈ "Unexpected char '\n'".toList := by decide
    rw [same]
    exact names

end Lexing
