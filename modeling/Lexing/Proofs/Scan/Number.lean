import Lexing.Proofs.Scan.Quoted

/-! # What scans of number literals come to

The parts of a number are taken as `Lexeme.Numeral.read` cuts them off a text. A digit that the base
does not have is reported when it is looked at, a missing exponent where it is missed, and a suffix when
its end is known. -/

namespace Lexing.Scan

open Lexeme (Base Finding Numeral)

variable (origin : Nat) {place : Place} {c : Char} {rest : List Char}

/-! ## Places -/

theorem foreignDigits_cons (base : Base) (offset : Nat) (c : Char) (others : List Char) :
    Numeral.foreignDigits base offset [] (c :: others) =
      (if (c.isDigit && (base.digit? c).isNone) = true then [⟨offset, .foreignDigit c base⟩] else []) ++
        Numeral.foreignDigits base (offset + c.utf8Size) [] others := by
  rw [Numeral.foreignDigits, Numeral.foreignDigits_append]
  split <;> rfl

theorem takes_place {base : Base} (left : place.cursor.rest = c :: rest) (kind : base.isPlace c = true) :
    Takes origin (Scan.place base) place (some c) [c]
      (atOnce (if (c.isDigit && (base.digit? c).isNone) = true
        then [⟨place.cursor.offset, .foreignDigit c base⟩] else [])) := by
  refine .of_does ((Does.nextIf_holds origin base.isPlace left kind).before ?_)
  dsimp only
  split
  · apply (Does.report origin (place.take [c]) place.cursor.offset _).before_silent
    exact .pure _ _
  · exact .pure _ _

/-- Places are taken one by one, and the digits among them that the base does not have are reported. -/
theorem takesAll_places (base : Base) (place : Place) :
    TakesAll origin (Scan.place base) place (place.cursor.rest.takeWhile base.isPlace)
      (place.cursor.rest.takeWhile base.isPlace)
      (atOnce (Numeral.foreignDigits base place.cursor.offset []
        (place.cursor.rest.takeWhile base.isPlace))) := by
  have nothing {place : Place}
      (ends : ∀ c, place.cursor.rest.head? = some c → base.isPlace c = false) :
      TakesAll origin (Scan.place base) place [] [] [] :=
    .ends (.of_glance ((Does.nextIf_fails origin base.isPlace ends).before (.pure _ _)))
  induction left : place.cursor.rest generalizing place with
  | nil =>
      apply nothing
      exact forall_head_of_nil left
  | cons c rest ih =>
      cases kind : base.isPlace c with
      | false =>
          rw [List.takeWhile_cons_of_neg (by simp [kind])]
          apply nothing
          exact forall_head_of_cons left kind
      | true =>
          rw [List.takeWhile_cons_of_pos kind, foreignDigits_cons, atOnce_append]
          have visible : place.cursor.rest ≠ [] := by
            rw [left]
            exact List.cons_ne_nil c rest
          have one := takes_place origin left kind
          refine .gives one (List.cons_ne_nil c []) visible fun next moved => ?_
          rw [Cursor.pass_of_append left] at moved
          have others := ih next (congrArg Cursor.rest moved)
          rwa [moved] at others

/-- In base ten every decimal digit is one of the base. -/
theorem isSome_digit?_decimal {c : Char} (digit : c.isDigit = true) :
    (Base.decimal.digit? c).isSome = true := by
  simp only [Char.isDigit, ge_iff_le, Bool.and_eq_true, decide_eq_true_eq] at digit
  have inside : '0' ≤ c ∧ c ≤ '9' := digit
  have small : c.toNat - '0'.toNat < Base.decimal.radix := by
    have greatest : c.toNat ≤ 57 := UInt32.le_iff_toNat_le.mp digit.2
    change c.toNat - 48 < 10
    omega
  rw [Base.digit?, Lexeme.digitValue?, if_pos inside, Option.filter_some, if_pos (by simpa using small)]
  rfl

theorem foreignDigits_decimal (offset : Nat) (places : List Char) :
    Numeral.foreignDigits .decimal offset [] places = [] := by
  induction places generalizing offset with
  | nil => rfl
  | cons c others ih =>
      have own : ¬ (c.isDigit && (Base.decimal.digit? c).isNone) = true := by
        intro foreign
        obtain ⟨digit, none⟩ := (Bool.and_eq_true _ _).mp foreign
        rw [← Option.not_isSome, isSome_digit?_decimal digit] at none
        cases none
      rw [foreignDigits_cons, if_neg own, ih]
      rfl

theorem takes_decimals (place : Place) :
    Takes origin (collect (Scan.place .decimal)) place
      (place.cursor.rest.takeWhile Base.decimal.isPlace)
      (place.cursor.rest.takeWhile Base.decimal.isPlace) [] := by
  have all := (takesAll_places origin .decimal place).takes
  rwa [foreignDigits_decimal] at all

/-! ## Fraction, exponent, suffix -/

/-- In base ten a point is taken with the places behind it. -/
theorem takes_fraction (base : Base) (place : Place) :
    Takes origin (fraction base) place (Numeral.splitFraction base place.cursor.rest).1
      (Numeral.fractionText (Numeral.splitFraction base place.cursor.rest).1) [] := by
  by_cases ten : base = .decimal
  · subst ten
    by_cases point : place.cursor.rest.head? = some '.'
    · obtain ⟨rest, left⟩ := List.head?_eq_some_iff.mp point
      rw [left]
      refine (takes_nextIf_eq origin left).bind fun next moved => ?_
      rw [Cursor.pass_of_append left] at moved
      have places := takes_decimals origin next
      rw [moved] at places
      exact places.before fun next => .pure _ next
    · have none : Numeral.splitFraction .decimal place.cursor.rest = (none, place.cursor.rest) := by
        unfold Numeral.splitFraction
        split
        · rename_i left
          rw [left] at point
          exact absurd rfl point
        · rfl
      rw [none]
      exact (takes_nextIf_ne origin point).before fun next => .pure _ next
  · have none : Numeral.splitFraction base place.cursor.rest = (none, place.cursor.rest) := by
      unfold Numeral.splitFraction
      split
      · rename_i left
        rw [if_neg ten, left]
      · rfl
    rw [none, fraction, if_neg ten]
    exact .of_does (.pure _ place)

/-- One sign is taken. -/
theorem takes_sign (place : Place) :
    Takes origin sign place (Numeral.splitSign place.cursor.rest).1
      (Numeral.splitSign place.cursor.rest).1.toList [] := by
  by_cases minus : place.cursor.rest.head? = some '-'
  · obtain ⟨rest, left⟩ := List.head?_eq_some_iff.mp minus
    rw [left]
    exact (takes_nextIf_eq origin left).before fun next => .pure _ next
  · have first := takes_nextIf_ne origin minus
    by_cases plus : place.cursor.rest.head? = some '+'
    · obtain ⟨rest, left⟩ := List.head?_eq_some_iff.mp plus
      rw [left]
      refine first.bind fun next moved => ?_
      have left := (congrArg Cursor.rest moved).trans left
      exact (takes_nextIf_eq origin left).before fun next => .pure _ next
    · have none : Numeral.splitSign place.cursor.rest = (none, place.cursor.rest) := by
        unfold Numeral.splitSign
        split
        · rename_i left
          exact absurd (by rw [left]; rfl) minus
        · rename_i left
          exact absurd (by rw [left]; rfl) plus
        · rfl
      rw [none]
      refine first.bind fun next moved => ?_
      have other : next.cursor.rest.head? ≠ some '+' := by
        rw [moved]
        exact plus
      exact (takes_nextIf_ne origin other).before fun next => .pure _ next

/-- In base ten an exponent is taken: its letter, one sign, and places. -/
theorem takes_exponent (base : Base) (place : Place) :
    Takes origin (exponent base) place (Numeral.splitExponent base place.cursor.rest).1
      (Numeral.exponentText (Numeral.splitExponent base place.cursor.rest).1) [] := by
  by_cases ten : base = .decimal
  · subst ten
    cases left : place.cursor.rest with
    | nil =>
        have nothing := takes_nextIf_none origin (fun c => c == 'e' || c == 'E')
          (forall_head_of_nil left)
        exact nothing.before fun next => .pure _ next
    | cons mark rest =>
        rw [Numeral.splitExponent]
        split
        case isTrue marked =>
          have kind : (mark == 'e' || mark == 'E') = true := by simpa using marked
          have taken := Does.nextIf_holds origin (fun c => c == 'e' || c == 'E') left kind
          refine Takes.bind (.of_does taken) fun next moved => ?_
          rw [Cursor.pass_of_append left] at moved
          have sign := takes_sign origin next
          rw [moved] at sign
          refine sign.bind fun last atLast => ?_
          have parts := Numeral.sign_splitSign rest
          rw [moved, Cursor.pass_of_append parts.symm] at atLast
          have places := takes_decimals origin last
          rw [atLast] at places
          exact places.before fun next => .pure _ next
        case isFalse other =>
          have kind : (mark == 'e' || mark == 'E') = false := by simpa using other
          have nothing := takes_nextIf_none origin (fun c => c == 'e' || c == 'E')
            (forall_head_of_cons left kind)
          exact nothing.before fun next => .pure _ next
  · have none : Numeral.splitExponent base place.cursor.rest = (none, place.cursor.rest) := by
      cases place.cursor.rest with
      | nil => rfl
      | cons mark rest => exact if_neg fun marked => ten marked.1
    rw [none, exponent, if_neg ten]
    exact .of_does (.pure _ place)

/-- How far is looked when letters are taken and the next character, if there is one, is looked at. -/
theorem looked_take_glance (place : Place) {letters : List Char} (nonempty : letters ≠ []) :
    (place.take letters).glance.looked =
      if (place.cursor.rest.drop letters.length).isEmpty then
        place.cursor.offset + Text.lastOffset letters + 1
      else place.cursor.offset + Text.width letters + 1 := by
  by_cases atEnd : place.cursor.rest.drop letters.length = []
  · have atPlace : (place.take letters).cursor.rest = [] := atEnd
    rw [Place.glance_of_nil atPlace, atEnd]
    exact if_neg nonempty
  · have atPlace : (place.take letters).cursor.rest ≠ [] := atEnd
    rw [Place.glance, if_neg atPlace, if_neg (mt List.isEmpty_iff.mp atEnd)]
    rfl

/-- A suffix is taken, and reported once its end is known. -/
theorem takes_suffix (place : Place) :
    Takes origin suffix place (Numeral.suffixOf place.cursor.rest)
      (Numeral.suffixOf place.cursor.rest)
      (if (Numeral.suffixOf place.cursor.rest).isEmpty then []
        else [(⟨place.cursor.offset, .invalidSuffix (Numeral.suffixOf place.cursor.rest)⟩,
          (place.take (Numeral.suffixOf place.cursor.rest)).glance.looked)]) := by
  cases left : place.cursor.rest with
  | nil => exact .of_does ((Does.peek_nil origin left).before (.pure [] place))
  | cons c rest =>
      rw [Numeral.suffixOf]
      split
      case isTrue alphabetic =>
        have kind : Character.continuesWord c = true :=
          Character.continuesWord_of_opensWord (by rw [Character.opensWord, alphabetic]; rfl)
        have letters := Does.takeWhile origin Character.continuesWord place.look
        rw [Place.cursor_look, left, List.takeWhile_cons_of_pos kind,
          Place.take_congr place.cursor_look (List.cons_ne_nil _ _)] at letters
        refine ⟨_, (Does.peek_cons origin left).before ?_, Place.glance_glance _⟩
        dsimp only
        rw [if_pos alphabetic]
        apply letters.before
        apply (Does.report origin _ place.cursor.offset _).before_silent
        exact .pure _ _
      case isFalse other =>
        refine .of_look left ((Does.peek_cons origin left).before ?_)
        dsimp only
        rw [if_neg other]
        exact .pure _ _

/-! ## Literals -/

/-- Digits are missing where a literal ends if there is no suffix to be reported instead. -/
def lacksDigits (exponent : Option Lexeme.Exponent) (suffix : List Char) : Bool :=
  suffix.isEmpty && exponent.any fun exponent => !exponent.hasDigits

theorem does_reportExponent (exponent : Option Lexeme.Exponent) (suffix : List Char) :
    Does origin (reportExponent exponent suffix) place ()
      (place.stop [] (lacksDigits exponent suffix))
      (atOnce (if lacksDigits exponent suffix then [⟨place.cursor.offset, .exponentWithoutDigits⟩]
        else [])) := by
  unfold reportExponent
  cases lacks : lacksDigits exponent suffix with
  | false =>
      rw [lacksDigits] at lacks
      rw [lacks]
      exact .pure () place
  | true =>
      rw [lacksDigits] at lacks
      rw [lacks]
      exact (Does.position origin place).before (Does.report origin place.look place.cursor.offset _)

/-- The parts of a literal behind what gives its base. -/
def behindLead (numeral : Numeral) : List Char :=
  numeral.whole ++ (Numeral.fractionText numeral.fraction ++
    (Numeral.exponentText numeral.exponent ++ numeral.suffix))

theorem text_eq_behindLead (numeral : Numeral) : numeral.text = numeral.lead ++ behindLead numeral := by
  simp only [Numeral.text, Numeral.body, behindLead, List.append_assoc]

/-- What is found at the end of a literal that starts at an offset. -/
def endMade (start : Nat) (numeral : Numeral) (followed : Bool) : List Made :=
  (if numeral.suffix.isEmpty then []
    else [(⟨start + Text.width numeral.body, .invalidSuffix numeral.suffix⟩,
      if followed then start + Text.width numeral.text + 1
      else start + Text.lastOffset numeral.text + 1)]) ++
    atOnce (if lacksDigits numeral.exponent numeral.suffix
      then [⟨start + Text.width numeral.body, .exponentWithoutDigits⟩] else [])

/-- The literal that a text writes behind what gives its base. -/
def readBehind (base : Base) (lead text : List Char) : Numeral :=
  let fraction := Numeral.splitFraction base (text.dropWhile base.isPlace)
  let exponent := Numeral.splitExponent base fraction.2
  ⟨base, lead, text.takeWhile base.isPlace, fraction.1, exponent.1, Numeral.suffixOf exponent.2⟩

/-- The parts of a literal at the head of a text, and what each of them leaves of the text. -/
structure Cuts (base : Base) (numeral : Numeral) (text afterWhole afterFraction afterExponent after :
    List Char) : Prop where
  whole : text.takeWhile base.isPlace = numeral.whole
  wholeText : text = numeral.whole ++ afterWhole
  fraction : (Numeral.splitFraction base afterWhole).1 = numeral.fraction
  fractionText : afterWhole = Numeral.fractionText numeral.fraction ++ afterFraction
  exponent : (Numeral.splitExponent base afterFraction).1 = numeral.exponent
  exponentText : afterFraction = Numeral.exponentText numeral.exponent ++ afterExponent
  suffix : Numeral.suffixOf afterExponent = numeral.suffix
  suffixText : afterExponent = numeral.suffix ++ after

/-- A literal is cut off a text part by part. -/
theorem exists_cuts {base : Base} {lead text after : List Char} {numeral : Numeral}
    (read : numeral = readBehind base lead text) (headed : behindLead numeral ++ after = text) :
    ∃ afterWhole afterFraction afterExponent,
      Cuts base numeral text afterWhole afterFraction afterExponent after := by
  have whole : text.takeWhile base.isPlace = numeral.whole := by rw [read, readBehind]
  have wholeText : text = numeral.whole ++ text.dropWhile base.isPlace := by
    rw [← whole]
    exact List.takeWhile_append_dropWhile.symm
  generalize afterWhole_eq : text.dropWhile base.isPlace = afterWhole at wholeText
  have fractionText := (Numeral.fractionText_splitFraction base afterWhole).symm
  have fraction : (Numeral.splitFraction base afterWhole).1 = numeral.fraction := by
    rw [read, readBehind, afterWhole_eq]
  generalize afterFraction_eq : (Numeral.splitFraction base afterWhole).2 = afterFraction at fractionText
  have exponentText := (Numeral.exponentText_splitExponent base afterFraction).symm
  have exponent : (Numeral.splitExponent base afterFraction).1 = numeral.exponent := by
    rw [read, readBehind, afterWhole_eq, afterFraction_eq]
  generalize afterExponent_eq : (Numeral.splitExponent base afterFraction).2 = afterExponent
    at exponentText
  have suffix : Numeral.suffixOf afterExponent = numeral.suffix := by
    rw [read, readBehind, afterWhole_eq, afterFraction_eq, afterExponent_eq]
  rw [fraction] at fractionText
  rw [exponent] at exponentText
  have suffixText : afterExponent = numeral.suffix ++ after := by
    rw [wholeText, fractionText, exponentText, behindLead] at headed
    simpa only [List.append_assoc, List.append_cancel_left_eq, eq_comm] using headed
  exact ⟨afterWhole, afterFraction, afterExponent, whole, wholeText, fraction, fractionText,
    exponent, exponentText, suffix, suffixText⟩

/-- Behind the other parts of a literal the suffix is taken, and what is wrong there is reported. -/
theorem stops_end (place : Place) {start : Nat} {numeral : Numeral} {after : List Char}
    (finish : List Char → β)
    (offset : place.cursor.offset = start + Text.width numeral.body)
    (suffix : Numeral.suffixOf place.cursor.rest = numeral.suffix)
    (left : place.cursor.rest = numeral.suffix ++ after) :
    Leads origin (do
        let suffix ← Scan.suffix
        reportExponent numeral.exponent suffix
        return finish suffix)
      place (finish numeral.suffix)
      (place.stop numeral.suffix (lacksDigits numeral.exponent numeral.suffix))
      (endMade start numeral (!after.isEmpty)) := by
  have taken := takes_suffix origin place
  rw [suffix] at taken
  -- at most one of the two is reported: behind a suffix no digits are missing
  have reports : endMade start numeral (!after.isEmpty) =
      (if numeral.suffix.isEmpty then []
        else [(⟨place.cursor.offset, .invalidSuffix numeral.suffix⟩,
          (place.take numeral.suffix).glance.looked)]) ++
      atOnce (if lacksDigits numeral.exponent numeral.suffix
        then [⟨place.cursor.offset + Text.width numeral.suffix, .exponentWithoutDigits⟩] else []) := by
    by_cases none : numeral.suffix = []
    · rw [endMade, none, offset]
      rfl
    · have lacks : lacksDigits numeral.exponent numeral.suffix = false := by
        rw [lacksDigits, List.isEmpty_eq_false_iff.mpr none, Bool.false_and]
      rw [endMade, lacks, looked_take_glance place none, left, List.drop_left, offset, Numeral.text,
        Text.width_append, Text.lastOffset_append _ none, ← Nat.add_assoc, ← Nat.add_assoc]
      cases after <;> rfl
  rw [reports]
  refine taken.stop_here fun last atLast => ?_
  have behind : last.cursor.offset = place.cursor.offset + Text.width numeral.suffix := by
    rw [atLast, Cursor.pass]
  rw [← behind]
  apply (does_reportExponent origin numeral.exponent numeral.suffix).before_silent
  exact .pure _ _

/-- A literal is taken part by part behind what gives its base. -/
theorem stops_numeral {base : Base} {lead after : List Char} {start : Nat} {numeral : Numeral}
    (read : numeral = readBehind base lead place.cursor.rest)
    (offset : place.cursor.offset = start + Text.width lead)
    (headed : behindLead numeral ++ after = place.cursor.rest) :
    Leads origin (Scan.numeral base lead) place numeral
      (place.stop (behindLead numeral) (lacksDigits numeral.exponent numeral.suffix))
      (atOnce (Numeral.foreignDigits base place.cursor.offset [] numeral.whole) ++
        endMade start numeral (!after.isEmpty)) := by
  obtain ⟨afterWhole, afterFraction, afterExponent, cuts⟩ := exists_cuts read headed
  -- each part leaves the cursor where the next one is cut off
  have whole := (takesAll_places origin base place).takes
  rw [cuts.whole] at whole
  refine whole.stop fun second atSecond => ?_
  rw [Cursor.pass_of_append cuts.wholeText] at atSecond
  have fraction := takes_fraction origin base second
  rw [atSecond, cuts.fraction] at fraction
  refine fraction.stop fun third atThird => ?_
  rw [atSecond, Cursor.pass_of_append cuts.fractionText] at atThird
  have exponent := takes_exponent origin base third
  rw [atThird, cuts.exponent] at exponent
  refine exponent.stop fun fourth atFourth => ?_
  rw [atThird, Cursor.pass_of_append cuts.exponentText] at atFourth
  have parts : numeral = ⟨base, lead, numeral.whole, numeral.fraction, numeral.exponent,
      numeral.suffix⟩ := by
    subst read
    rfl
  have bodies : fourth.cursor.offset = start + Text.width numeral.body := by
    have behind : fourth.cursor.offset = place.cursor.offset + Text.width numeral.whole +
        Text.width (Numeral.fractionText numeral.fraction) +
        Text.width (Numeral.exponentText numeral.exponent) := congrArg Cursor.offset atFourth
    have leads : numeral.lead = lead := congrArg Numeral.lead parts
    rw [behind, offset, Numeral.body, leads, Text.width_append, Text.width_append, Text.width_append]
    simp only [Nat.add_assoc]
  have left : fourth.cursor.rest = afterExponent := congrArg Cursor.rest atFourth
  have ended := stops_end origin fourth
    (fun suffix => Numeral.mk base lead numeral.whole numeral.fraction numeral.exponent suffix)
    bodies (left ▸ cuts.suffix) (left.trans cuts.suffixText)
  rw [← parts] at ended
  exact ended

theorem foreignDigits_shift (base : Base) (start offset : Nat) (places : List Char) :
    (Numeral.foreignDigits base offset [] places).map (Finding.shift start) =
      Numeral.foreignDigits base (start + offset) [] places := by
  induction places generalizing offset with
  | nil => rfl
  | cons c others ih =>
      rw [foreignDigits_cons, foreignDigits_cons, List.map_append, ih, Nat.add_assoc]
      refine congrArg (· ++ _) ?_
      split <;> rfl

/-- What is found in a literal is found at once, except for what is found at its end. -/
theorem made_number (start : Nat) (numeral : Numeral) (followed : Bool) :
    Segment.made ⟨start, .number numeral, followed⟩ =
      atOnce (Numeral.foreignDigits numeral.base (start + Text.width numeral.lead) [] numeral.whole) ++
        endMade start numeral followed := by
  rw [Segment.made, Segment.findings, Lexeme.findings, Numeral.findings, List.map_append,
    List.map_append, foreignDigits_shift]
  refine congrArg₂ (· ++ ·) ?digits ?ending
  case digits =>
    refine List.map_congr_left fun finding found => ?_
    obtain ⟨digit, -, fault⟩ := Numeral.exists_digit_of_mem found
    rw [Segment.reach, fault]
  case ending =>
    rw [Numeral.endFindings, endMade, lacksDigits]
    cases none : numeral.suffix.isEmpty with
    | false => cases followed <;> rfl
    | true =>
        cases numeral.exponent with
        | none => rfl
        | some exponent =>
            simp only [Option.any_some, if_true, Bool.true_and]
            cases exponent.hasDigits <;> rfl

/-- A number literal is taken part by part; what gives its base is not looked at. -/
theorem stops_number {numeral : Numeral} {after : List Char} (left : place.cursor.rest = c :: rest)
    (digit : c.isDigit = true) (read : Numeral.read (c :: rest) = numeral)
    (headed : numeral.text ++ after = c :: rest) :
    Leads origin number place (some (.number numeral))
      ((place.look.pass numeral.lead).stop (behindLead numeral)
        (lacksDigits numeral.exponent numeral.suffix))
      (Segment.made ⟨place.cursor.offset, .number numeral, !after.isEmpty⟩) := by
  have detected : Base.detect (c :: rest) = (numeral.base, numeral.lead) := by
    rw [← read]
    rfl
  have whole : numeral.lead ++ (behindLead numeral ++ after) = c :: rest := by
    rw [← headed, text_eq_behindLead, List.append_assoc]
  have behind : numeral = readBehind numeral.base numeral.lead (behindLead numeral ++ after) := by
    have parts : Numeral.read (c :: rest) = readBehind (Base.detect (c :: rest)).1
      (Base.detect (c :: rest)).2 ((c :: rest).drop (Base.detect (c :: rest)).2.length) := rfl
    rw [detected, read] at parts
    rwa [← whole, List.drop_left] at parts
  have opened : (place.look.pass numeral.lead).cursor =
      ⟨place.cursor.offset + Text.width numeral.lead, behindLead numeral ++ after⟩ :=
    Cursor.pass_of_append (left.trans whole.symm)
  have inner := stops_numeral origin (by rw [opened]; exact behind) (congrArg Cursor.offset opened)
    (congrArg Cursor.rest opened).symm
  obtain ⟨next, does, alike⟩ := inner
  rw [opened] at does
  rw [made_number]
  refine ⟨next, (Does.peek_cons origin left).before ?_, alike⟩
  dsimp only
  rw [if_pos digit]
  apply (Does.get place.look).before
  rw [Place.cursor_look, left, detected]
  apply (Does.pass place.look _).before
  apply does.before_silent
  exact .pure _ _

end Lexing.Scan
