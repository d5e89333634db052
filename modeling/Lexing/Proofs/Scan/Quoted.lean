import Lexing.Proofs.Scan.Basic

/-! # What scans of quoted literals come to

Escapes, pieces and literals are taken as `Lexeme.Piece.readEscape`, `Lexeme.pieces` and the readings of
the two kinds of literals cut them off a text. Their faults are made as soon as the character that they
are about is looked at. -/

namespace Lexing.Scan

open Lexeme (Piece Finding StringLiteral CharacterLiteral)

/-- Findings that are made when the character they are about is looked at. -/
def atOnce (findings : List Finding) : List Made :=
  findings.map fun finding => (finding, finding.offset + 1)

variable (origin : Nat) {place : Place} {c : Char} {rest : List Char}

/-! ## Escapes -/

theorem takes_hexDigit_nil (atEnd : place.cursor.rest = []) :
    Takes origin hexDigit place (.error none) [] [] :=
  .of_does ((Does.peek_nil origin atEnd).before (.pure _ place))

theorem takes_hexDigit_other (left : place.cursor.rest = c :: rest)
    (other : (Lexeme.digitValue? c).isNone = true) :
    Takes origin hexDigit place (.error (some c)) []
      (atOnce [⟨place.cursor.offset, .unexpected c⟩]) := by
  refine .of_look left ((Does.peek_cons origin left).before ?_)
  dsimp only
  rw [if_pos other]
  exact (Does.report origin place.look _ _).before_silent (.pure _ _)

theorem takes_hexDigit (left : place.cursor.rest = c :: rest)
    (digit : ¬ (Lexeme.digitValue? c).isNone = true) :
    Takes origin hexDigit place (.ok c) [c] [] := by
  refine .of_does ((Does.peek_cons origin left).before ?_)
  dsimp only
  rw [if_neg digit]
  apply (Does.next_look origin left).before
  exact .pure _ _

/-- The digits of a hexadecimal escape are taken, and what stands in the place of one is reported. -/
theorem takes_hexEscape {start : Nat} (offset : place.cursor.offset = start + 2) :
    ∃ digits, (Piece.readHex place.cursor.rest).1.text = '\\' :: 'x' :: digits ∧
      Takes origin hexEscape place (Piece.readHex place.cursor.rest).1 digits
        (atOnce ((Piece.readHex place.cursor.rest).1.findings.map (Finding.shift start))) := by
  cases left : place.cursor.rest with
  | nil => exact ⟨[], rfl, (takes_hexDigit_nil origin left).before fun next => .pure _ next⟩
  | cons high rest =>
      simp only [Piece.readHex]
      split
      case isTrue other =>
        have first := takes_hexDigit_other origin left other
        rw [offset] at first
        exact ⟨[], rfl, first.before fun next => .pure _ next⟩
      case isFalse digit =>
        have first := takes_hexDigit origin left digit
        have behind {next : Place} (moved : next.cursor = place.cursor.pass [high]) :
            next.cursor.rest = rest ∧ next.cursor.offset = start + (2 + Text.width [high]) := by
          rw [moved, Cursor.pass, left, offset, Nat.add_assoc]
          exact ⟨rfl, rfl⟩
        cases rest with
        | nil =>
            refine ⟨[high], rfl, first.bind fun next moved => ?_⟩
            exact (takes_hexDigit_nil origin (behind moved).1).before fun next => .pure _ next
        | cons low others =>
            dsimp only
            split
            case isTrue other =>
              refine ⟨[high], rfl, first.bind fun next moved => ?_⟩
              have second := takes_hexDigit_other origin (behind moved).1 other
              rw [(behind moved).2] at second
              exact second.before fun next => .pure _ next
            case isFalse digit =>
              refine ⟨[high, low], rfl, first.bind fun next moved => ?_⟩
              exact (takes_hexDigit origin (behind moved).1 digit).before fun next => .pure _ next

/-- What a backslash opens is taken, and what is wrong with it is reported. -/
theorem takes_escaped {start : Nat} (offset : place.cursor.offset = start + 1) :
    ∃ letters, (Piece.readEscape place.cursor.rest).1.text = '\\' :: letters ∧
      Takes origin escaped place (Piece.readEscape place.cursor.rest).1 letters
        (atOnce ((Piece.readEscape place.cursor.rest).1.findings.map (Finding.shift start))) := by
  have stops (last : ∀ c, place.cursor.rest.head? = some c → (c != '\n') = false) :
      Takes origin escaped place .dangling [] [] :=
    .of_glance ((Does.nextIf_fails origin _ last).before (.pure _ _))
  cases left : place.cursor.rest with
  | nil =>
      exact ⟨[], rfl, stops (forall_head_of_nil left)⟩
  | cons letter rest =>
      simp only [Piece.readEscape]
      split
      case isTrue line =>
        exact ⟨[], rfl, stops (forall_head_of_cons left (bne_eq_false_iff_eq.mpr line))⟩
      case isFalse inLine =>
        have taken := Does.nextIf_holds origin (fun c => c != '\n') left
          (bne_iff_ne.mpr inLine)
        split
        case isTrue hex =>
          have offset : (place.take [letter]).cursor.offset = start + 2 := by
            rw [Place.cursor_take, Cursor.pass, offset, hex]
            rfl
          have behind : (place.take [letter]).cursor.rest = rest := by
            rw [Place.cursor_take, Cursor.pass, left]
            rfl
          obtain ⟨digits, spelled, next, does, alike⟩ := takes_hexEscape origin offset
          rw [behind] at spelled does
          rw [← Place.take_append] at alike
          refine ⟨letter :: digits, hex ▸ spelled, next, taken.before ?_, alike⟩
          dsimp only
          rw [if_pos hex]
          exact does
        case isFalse named =>
          refine ⟨[letter], rfl, .of_does (taken.before ?_)⟩
          dsimp only
          rw [if_neg named, Piece.findings]
          split
          · have reported := Does.report origin (place.take [letter]) place.cursor.offset
              (.unknownEscape letter)
            have looked : (place.take [letter]).looked = start + 1 + 1 :=
              congrArg (· + 1) offset
            rw [offset, looked] at reported
            rw [offset]
            apply reported.before_silent
            exact .pure _ _
          · exact .pure _ _

/-- An escape is taken, and what is wrong with it is reported. -/
theorem takes_escape (left : place.cursor.rest = '\\' :: rest) :
    Takes origin escape place (Piece.readEscape rest).1 (Piece.readEscape rest).1.text
      (atOnce ((Piece.readEscape rest).1.findings.map (Finding.shift place.cursor.offset))) := by
  have behind : (place.take ['\\']).cursor.rest = rest := by
    rw [Place.cursor_take, Cursor.pass, left]
    rfl
  obtain ⟨letters, spelled, next, does, alike⟩ :=
    @takes_escaped origin (place.take ['\\']) place.cursor.offset rfl
  rw [behind] at spelled does
  rw [← Place.take_append] at alike
  rw [spelled]
  exact ⟨next, (Does.next_cons origin left).before does, alike⟩

/-! ## Pieces -/

/-- Before a quote, the end of the line and the end of the text there is no piece. -/
theorem does_piece_none {quote : Char}
    (ends : ∀ c, place.cursor.rest.head? = some c → c = quote ∨ c = '\n') :
    Does origin (piece quote) place none place.glance [] := by
  cases left : place.cursor.rest with
  | nil =>
      rw [Place.glance_of_nil left]
      exact (Does.peek_nil origin left).before (.pure _ place)
  | cons c rest =>
      rw [Place.glance_of_cons left]
      apply (Does.peek_cons origin left).before
      dsimp only
      rw [if_pos (ends c (by rw [left]; rfl))]
      exact .pure _ _

theorem takes_piece_escape {quote : Char} (left : place.cursor.rest = '\\' :: rest)
    (other : quote ≠ '\\') :
    Takes origin (piece quote) place (some (Piece.readEscape rest).1)
      (Piece.readEscape rest).1.text
      (atOnce ((Piece.readEscape rest).1.findings.map (Finding.shift place.cursor.offset))) := by
  refine .peek left (Piece.text_ne_nil _) ?_
  dsimp only
  rw [if_neg (by simp [other.symm]), if_pos rfl]
  exact (@takes_escape origin place.look rest left).before fun next => .pure _ next

theorem takes_piece_plain {quote : Char} (left : place.cursor.rest = c :: rest)
    (inside : ¬ (c = quote ∨ c = '\n')) (plain : c ≠ '\\') :
    Takes origin (piece quote) place (some (.plain c)) [c] [] := by
  refine .peek left (List.cons_ne_nil _ _) ?_
  dsimp only
  rw [if_neg inside, if_neg plain]
  exact (Takes.of_does (Does.next_look origin left)).before fun next => .pure _ next

theorem atOnce_append (early late : List Finding) :
    atOnce (early ++ late) = atOnce early ++ atOnce late := List.map_append

theorem pieceFindings_cons (offset : Nat) (first : Piece) (pieces : List Piece) :
    Lexeme.pieceFindings offset [] (first :: pieces) =
      first.findings.map (Finding.shift offset) ++
        Lexeme.pieceFindings (offset + Text.width first.text) [] pieces := by
  rw [Lexeme.pieceFindings, Lexeme.pieceFindings_append, List.append_nil, List.reverse_reverse]

/-- The pieces of a string literal are taken one by one, and what is wrong with each is reported. -/
theorem takesAll_pieces (place : Place) :
    TakesAll origin (piece '"') place (Lexeme.pieces place.cursor.rest)
      ((Lexeme.pieces place.cursor.rest).flatMap Piece.text)
      (atOnce (Lexeme.pieceFindings place.cursor.offset [] (Lexeme.pieces place.cursor.rest))) := by
  induction size : place.cursor.rest.length using Nat.strongRecOn generalizing place with
  | _ count ih =>
      have stops (ends : ∀ c, place.cursor.rest.head? = some c → c = '"' ∨ c = '\n') :
          TakesAll origin (piece '"') place [] [] [] :=
        .ends (.of_glance (does_piece_none origin ends))
      -- behind a piece the others are taken by induction
      have behind {text after : List Char} (nonempty : text ≠ [])
          (whole : place.cursor.rest = text ++ after) (next : Place)
          (moved : next.cursor = place.cursor.pass text) :
          TakesAll origin (piece '"') next (Lexeme.pieces after)
            ((Lexeme.pieces after).flatMap Piece.text)
            (atOnce (Lexeme.pieceFindings (place.cursor.offset + Text.width text) []
              (Lexeme.pieces after))) := by
        rw [Cursor.pass_of_append whole] at moved
        have shorter : next.cursor.rest.length < count := by
          have taken := List.length_pos_iff.mpr nonempty
          rw [← size, moved, whole, List.length_append]
          exact Nat.lt_add_of_pos_left taken
        have all := ih _ shorter next rfl
        rwa [moved] at all
      cases left : place.cursor.rest with
      | nil =>
          rw [Lexeme.pieces_nil]
          apply stops
          exact forall_head_of_nil left
      | cons first rest =>
          have some : place.cursor.rest ≠ [] := by
            rw [left]
            exact List.cons_ne_nil first rest
          rw [Lexeme.pieces_cons]
          split
          case isTrue ends =>
            apply stops
            exact forall_head_of_cons left ends
          case isFalse inside =>
            split
            case isTrue escape =>
              rw [escape] at left
              have whole := left.trans (Piece.text_readEscape rest).symm
              have nonempty := (Piece.readEscape rest).1.text_ne_nil
              rw [pieceFindings_cons, atOnce_append, List.flatMap_cons]
              exact .gives (takes_piece_escape origin left (by decide)) nonempty some
                (behind nonempty whole)
            case isFalse plain =>
              rw [pieceFindings_cons, atOnce_append, List.flatMap_cons]
              exact .gives (takes_piece_plain origin left inside plain) (List.cons_ne_nil _ _) some
                (behind (List.cons_ne_nil _ _) left)

theorem pieceFindings_shift (start offset : Nat) (pieces : List Piece) :
    (Lexeme.pieceFindings offset [] pieces).map (Finding.shift start) =
      Lexeme.pieceFindings (start + offset) [] pieces := by
  induction pieces generalizing offset with
  | nil => rfl
  | cons first others ih =>
      rw [pieceFindings_cons, pieceFindings_cons, List.map_append, ih, List.map_map, Nat.add_assoc]
      refine congrArg (· ++ _) (List.map_congr_left fun finding _ => ?_)
      simp only [Function.comp_apply, Finding.shift, Nat.add_assoc]

/-! ## Literals -/

/-- A character of another kind is looked at, and nothing is taken. -/
theorem takes_nextIf_none (holds : Char → Bool)
    (other : ∀ c, place.cursor.rest.head? = some c → holds c = false) :
    Takes origin (nextIf holds) place none [] [] :=
  .of_glance (Does.nextIf_fails origin holds other)

/-- A character that is asked for is taken. -/
theorem takes_nextIf_eq (left : place.cursor.rest = c :: rest) :
    Takes origin (nextIf fun next => next == c) place (some (c, origin + place.cursor.offset)) [c] [] :=
  .of_does (Does.nextIf_holds origin (fun next => next == c) left (beq_self_eq_true c))

theorem takes_nextIf_ne (other : place.cursor.rest.head? ≠ some c) :
    Takes origin (nextIf fun next => next == c) place none [] [] :=
  takes_nextIf_none origin (fun next => next == c) fun _ found =>
    beq_eq_false_iff_ne.mpr fun same => other (same ▸ found)

/-- The closing quote of a literal is taken, or reported if it is missing. -/
theorem does_close {quote : Char} {closed : Bool} (quotation : Lexeme.Quotation)
    (state : (place.cursor.rest.head? == some quote) = closed) :
    Does origin (close quote quotation) place closed
      (place.stop (Lexeme.closing quote closed) (!closed))
      (atOnce (if closed then [] else [⟨place.cursor.offset, .unclosed quotation⟩])) := by
  cases closed with
  | true =>
      obtain ⟨rest, left⟩ := List.head?_eq_some_iff.mp (beq_iff_eq.mp state)
      have taken := Does.nextIf_holds origin (fun c => c == quote) left (beq_self_eq_true quote)
      apply taken.before
      exact .pure _ _
  | false =>
      have other : ∀ c, place.cursor.rest.head? = some c → (c == quote) = false := fun c found =>
        beq_eq_false_iff_ne.mpr fun same => beq_eq_false_iff_ne.mp state (same ▸ found)
      have looked := Does.position origin place.glance
      rw [Place.look_glance, Place.cursor_glance] at looked
      apply (Does.nextIf_fails origin (fun c => c == quote) other).before
      apply looked.before
      apply (Does.report origin place.look place.cursor.offset _).before_silent
      exact .pure _ _

/-- A string literal is taken piece by piece. -/
theorem stops_string (left : place.cursor.rest = '"' :: rest) :
    Leads origin string place (some (.string (StringLiteral.read rest)))
      (place.stop (StringLiteral.read rest).text (!(StringLiteral.read rest).closed))
      (atOnce ((StringLiteral.read rest).findings.map (Finding.shift place.cursor.offset))) := by
  have findings : (StringLiteral.read rest).findings.map (Finding.shift place.cursor.offset) =
      Lexeme.pieceFindings (place.cursor.offset + 1) [] (Lexeme.pieces rest) ++
        if (StringLiteral.read rest).closed then []
        else [⟨place.cursor.offset + 1 + Text.width (StringLiteral.read rest).body,
          .unclosed .string⟩] := by
    rw [StringLiteral.findings, List.map_append, pieceFindings_shift, Nat.add_assoc]
    split <;> rfl
  rw [findings, atOnce_append]
  refine (takes_nextIf_eq origin left).stop fun second atSecond => ?_
  rw [Cursor.pass_of_append left] at atSecond
  have pieces := (takesAll_pieces origin second).takes
  rw [atSecond] at pieces
  refine pieces.stop fun last atLast => ?_
  have offset : last.cursor.offset =
      place.cursor.offset + 1 + Text.width (StringLiteral.read rest).body := by
    rw [atLast, atSecond]
    rfl
  rw [← offset]
  refine ⟨_, (does_close origin .string ?_).before_silent ?_, rfl⟩
  · rw [atLast, atSecond]
    rfl
  · exact .pure _ _

/-- A character literal is reported as empty if its closing quote follows at once. -/
theorem takes_reportEmpty (place : Place) :
    Takes origin reportEmpty place () []
      (atOnce (if place.cursor.rest.head? = some '\'' then [⟨place.cursor.offset, .emptyCharacter⟩]
        else [])) := by
  cases left : place.cursor.rest with
  | nil => exact .of_does ((Does.peek_nil origin left).before (.pure () place))
  | cons c rest =>
      refine .of_look left ((Does.peek_cons origin left).before ?_)
      dsimp only
      simp only [List.head?_cons, Option.some_inj]
      split
      · exact Does.report origin place.look place.cursor.offset _
      · exact .pure () place.look

/-- The first piece of a character literal is taken, and what is wrong with it is reported. -/
theorem takes_firstPiece (place : Place) :
    Takes origin (piece '\'') place (CharacterLiteral.splitFirst place.cursor.rest).1
      (CharacterLiteral.firstText (CharacterLiteral.splitFirst place.cursor.rest).1)
      (atOnce (match (CharacterLiteral.splitFirst place.cursor.rest).1 with
        | none => []
        | some piece => piece.findings.map (Finding.shift place.cursor.offset))) := by
  have nothing (ends : ∀ c, place.cursor.rest.head? = some c → c = '\'' ∨ c = '\n') :
      Takes origin (piece '\'') place none [] [] :=
    .of_glance (does_piece_none origin ends)
  cases left : place.cursor.rest with
  | nil =>
      apply nothing
      exact forall_head_of_nil left
  | cons first rest =>
      simp only [CharacterLiteral.splitFirst]
      split
      case isTrue ends =>
        apply nothing
        exact forall_head_of_cons left ends
      case isFalse inside =>
        split
        case isTrue escape =>
          rw [escape] at left
          exact takes_piece_escape origin left (by decide)
        case isFalse plain => exact takes_piece_plain origin left inside plain

/-- Characters behind the first piece are taken up to the closing quote or the end of the line. -/
theorem takes_extra (place : Place) :
    Takes origin extra place (place.cursor.rest.takeWhile CharacterLiteral.inside)
      (place.cursor.rest.takeWhile CharacterLiteral.inside)
      (atOnce (if (place.cursor.rest.takeWhile CharacterLiteral.inside).isEmpty then []
        else [⟨place.cursor.offset, .severalCharacters⟩])) := by
  have nothing (ends : ∀ c, place.cursor.rest.head? = some c → CharacterLiteral.inside c = false) :
      Takes origin extra place [] [] [] := 
    ⟨_, (Does.nextIf_fails origin _ ends).before (.pure _ _), Place.glance_glance _⟩
  cases left : place.cursor.rest with
  | nil =>
      apply nothing
      exact forall_head_of_nil left
  | cons c rest =>
      cases kind : CharacterLiteral.inside c with
      | false =>
          rw [List.takeWhile_cons_of_neg (by simp [kind])]
          apply nothing
          exact forall_head_of_cons left kind
      | true =>
          rw [List.takeWhile_cons_of_pos kind]
          have behind : (place.take [c]).cursor.rest = rest := by
            rw [Place.cursor_take, Cursor.pass_of_append left]
          have others := Does.takeWhile origin CharacterLiteral.inside (place.take [c])
          rw [behind, ← Place.take_append] at others
          refine ⟨_, (Does.nextIf_holds origin _ left kind).before ?_, Place.glance_glance _⟩
          apply (Does.report origin (place.take [c]) place.cursor.offset _).before_silent
          apply others.before
          exact .pure _ _

/-- A literal has no first piece although it is closed exactly if the closing quote follows at once. -/
theorem isNone_and_closed_iff (text : List Char) :
    ((CharacterLiteral.read text).first.isNone && (CharacterLiteral.read text).closed) = true ↔
      text.head? = some '\'' := by
  cases text with
  | nil => simp [CharacterLiteral.splitFirst, CharacterLiteral.read]
  | cons first rest =>
      simp only [CharacterLiteral.read, CharacterLiteral.splitFirst]
      split
      case isTrue ends =>
        rcases ends with rfl | rfl <;> simp [CharacterLiteral.inside]
      case isFalse inside =>
        have other : first ≠ '\'' := fun same => inside (.inl same)
        split <;> simp [other]

/-- What is wrong with a character literal, in the order found. -/
theorem findings_character (start : Nat) (text : List Char) :
    (CharacterLiteral.read text).findings.map (Finding.shift start) =
      (if text.head? = some '\'' then [⟨start + 1, .emptyCharacter⟩] else []) ++
      ((match (CharacterLiteral.splitFirst text).1 with
        | none => []
        | some piece => piece.findings.map (Finding.shift (start + 1))) ++
      ((if ((CharacterLiteral.splitFirst text).2.takeWhile CharacterLiteral.inside).isEmpty then []
        else [⟨start + 1 + Text.width
          (CharacterLiteral.firstText (CharacterLiteral.splitFirst text).1), .severalCharacters⟩]) ++
      if (CharacterLiteral.read text).closed then []
      else [⟨start + Text.width ('\'' :: (CharacterLiteral.read text).body),
        .unclosed .character⟩])) := by
  have empty := isNone_and_closed_iff text
  simp only [CharacterLiteral.findings, List.map_append, List.append_assoc]
  refine congrArg₂ (· ++ ·) ?empty (congrArg₂ (· ++ ·) ?first (congrArg₂ (· ++ ·) ?several ?unclosed))
  case empty =>
    by_cases head : text.head? = some '\''
    · rw [if_pos head, if_pos (empty.mpr head)]
      rfl
    · rw [if_neg head, if_neg fun found => head (empty.mp found)]
      rfl
  case first =>
    change List.map _ (match (CharacterLiteral.splitFirst text).1 with
      | none => []
      | some piece => piece.findings.map (Finding.shift 1)) = _
    cases (CharacterLiteral.splitFirst text).1 with
    | none => rfl
    | some piece =>
        rw [List.map_map]
        refine List.map_congr_left fun finding _ => ?_
        simp only [Function.comp_apply, Finding.shift, Nat.add_assoc]
  case several =>
    rw [apply_ite (List.map (Finding.shift start)), Nat.add_assoc]
    rfl
  case unclosed =>
    rw [apply_ite (List.map (Finding.shift start))]
    rfl

/-- A character literal is taken with all that stands before its closing quote. -/
theorem stops_character (left : place.cursor.rest = '\'' :: rest) :
    Leads origin character place (some (.character (CharacterLiteral.read rest)))
      (place.stop (CharacterLiteral.read rest).text (!(CharacterLiteral.read rest).closed))
      (atOnce ((CharacterLiteral.read rest).findings.map (Finding.shift place.cursor.offset))) := by
  have split := CharacterLiteral.firstText_splitFirst rest
  have parts : (CharacterLiteral.read rest).text =
      ['\''] ++ ([] ++ (CharacterLiteral.firstText (CharacterLiteral.splitFirst rest).1 ++
        ((CharacterLiteral.read rest).extra ++
          Lexeme.closing '\'' (CharacterLiteral.read rest).closed))) := by
    rw [CharacterLiteral.text, CharacterLiteral.body, List.append_assoc]
    rfl
  rw [findings_character, atOnce_append, atOnce_append, atOnce_append, parts]
  refine (takes_nextIf_eq origin left).stop fun second atSecond => ?_
  rw [Cursor.pass_of_append left] at atSecond
  have empty := takes_reportEmpty origin second
  rw [atSecond] at empty
  refine empty.stop fun third atThird => ?_
  rw [Cursor.pass_nil, atSecond] at atThird
  have first := takes_firstPiece origin third
  rw [atThird] at first
  refine first.stop fun fourth atFourth => ?_
  rw [atThird, Cursor.pass_of_append split.symm] at atFourth
  have extra := takes_extra origin fourth
  rw [atFourth] at extra
  refine extra.stop fun last atLast => ?_
  rw [atFourth, Cursor.pass_of_append List.takeWhile_append_dropWhile.symm] at atLast
  have offset : last.cursor.offset =
      place.cursor.offset + Text.width ('\'' :: (CharacterLiteral.read rest).body) := by
    have opened : last.cursor.offset = place.cursor.offset + 1 +
        Text.width (CharacterLiteral.firstText (CharacterLiteral.splitFirst rest).1) +
        Text.width (CharacterLiteral.read rest).extra := congrArg Cursor.offset atLast
    rw [opened, CharacterLiteral.body, ← List.singleton_append, Text.width_append, Text.width_append,
      ← Nat.add_assoc, ← Nat.add_assoc]
    rfl
  rw [← offset]
  refine ⟨_, (does_close origin .character ?_).before_silent ?_, rfl⟩
  · rw [atLast]
    rfl
  · exact .pure _ _

end Lexing.Scan
