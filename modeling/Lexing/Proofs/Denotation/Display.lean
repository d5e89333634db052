import Lexing.Proofs.Denotation.Quoted
import Lexing.Proofs.Digits

/-! # Numbers that are displayed

The written form of a number that is not negative is the text of a decimal literal: the digits of its
integer and, unless the exponent is zero, the letter `e`, a sign and the digits of the exponent. No
number is written with a zero in front, so no written form opens as an octal literal does, and what is
read of it is the number that was written. -/

namespace Lexing

open Lexeme
open Text (MaximalRun)

/-! ## What is written -/

/-- The digits of a number are places of a decimal literal. -/
theorem Lexeme.Base.places_toDigits (number : ℕ) : Base.decimal.Places (Nat.toDigits 10 number) :=
  fun c member => Or.inl (Base.decimal.hasDigit_of_mem_toDigits number c member)

/-- An integer is written as its digits, behind a minus if it is negative. -/
theorem toList_toString_int (n : ℤ) :
    (toString n).toList = (if n < 0 then ['-'] else []) ++ Nat.toDigits 10 n.natAbs := by
  cases n with
  | ofNat magnitude =>
      rw [if_neg (by simp)]
      exact Nat.toList_repr
  | negSucc magnitude =>
      have minus : toString (Int.negSucc magnitude) = "-" ++ (magnitude + 1).repr := rfl
      rw [minus, if_pos (Int.negSucc_lt_zero magnitude), String.toList_append, Nat.toList_repr]
      rfl

namespace Number

/-- The exponent of the literal that a number is written as. -/
def writtenExponent (number : Number) : Option Exponent :=
  if number.exp = 0 then none
  else some ⟨'e', if number.exp < 0 then some '-' else none, Nat.toDigits 10 number.exp.natAbs⟩

/-- The literal that a number is written as, if it is not negative. -/
def numeral (number : Number) : Numeral where
  base := .decimal
  lead := []
  whole := Nat.toDigits 10 number.val.natAbs
  fraction := none
  exponent := number.writtenExponent
  suffix := []

theorem text_numeral (number : Number) :
    number.numeral.text = Nat.toDigits 10 number.val.natAbs ++
      Numeral.exponentText number.writtenExponent := by
  simp only [Numeral.text, Numeral.body, numeral, Numeral.fractionText, List.nil_append,
    List.append_nil]

/-- A number that is not negative is written as that literal. -/
theorem toList_display {number : Number} (natural : 0 ≤ number.val) :
    number.display.toList = number.numeral.text := by
  have digits : (toString number.val).toList = Nat.toDigits 10 number.val.natAbs := by
    rw [toList_toString_int, if_neg (Int.not_lt.mpr natural), List.nil_append]
  rw [text_numeral, display, writtenExponent]
  split
  · rw [digits, Numeral.exponentText, List.append_nil]
  · rw [String.toList_append, String.toList_append, digits, toList_toString_int, List.append_assoc]
    split <;> rfl

/-! ## Reading the literal again -/

/-- What stands behind the digits of the integer opens with the letter of the exponent, if there is
anything. -/
theorem head_exponentText (number : Number) :
    ∀ c, (Numeral.exponentText number.writtenExponent).head? = some c → c = 'e' := by
  intro c head
  unfold writtenExponent at head
  split at head
  · cases head
  · cases head
    rfl

/-- The digits of the integer do not open as a literal of another base does. -/
theorem leads_numeral (number : Number) :
    LeadRule .decimal []
      (Nat.toDigits 10 number.val.natAbs ++ Numeral.exponentText number.writtenExponent) := by
  refine .decimal fun next rest same => ?_
  rcases Nat.eq_zero_or_pos number.val.natAbs with zero | positive
  · rw [zero] at same
    have letter : next = 'e' :=
      number.head_exponentText next (List.head?_eq_some_iff.mpr ⟨rest, (List.cons.inj same).2⟩)
    rw [letter]
    decide
  · obtain ⟨first, others, spelled, other⟩ : ∃ first others,
        Nat.toDigits 10 number.val.natAbs = first :: others ∧ first ≠ '0' :=
      Base.decimal.exists_toDigits_eq_cons positive
    rw [spelled] at same
    exact absurd (List.cons.inj same).1 other

/-- The exponent is read as it was written. -/
theorem splitExponent_numeral (number : Number) :
    Numeral.splitExponent .decimal (Numeral.exponentText number.writtenExponent) =
      (number.writtenExponent, []) := by
  unfold writtenExponent
  split
  · rfl
  · have places := Base.places_toDigits number.exp.natAbs
    have run : MaximalRun Base.decimal.isPlace (Nat.toDigits 10 number.exp.natAbs) [] :=
      .of_all places.isPlace
    rw [Numeral.exponentText, Exponent.text]
    refine Numeral.splitExponent_marked rfl (Or.inl rfl) ?_ run
    rw [List.append_nil]
    split
    · rfl
    · obtain ⟨sign, none, split⟩ := places.exists_sign (Or.inl rfl)
      rw [Option.toList_eq_nil_iff.mp none] at split
      exact split

/-- Each part of the literal ends where the next one begins, and the last one at the end. -/
theorem standsBefore_numeral (number : Number) : number.numeral.StandsBefore [] := by
  have places := Base.places_toDigits number.val.natAbs
  have fractionLeft : number.numeral.afterFraction [] = Numeral.exponentText number.writtenExponent :=
    List.append_nil _
  have placesLeft : number.numeral.afterWhole [] = Numeral.exponentText number.writtenExponent :=
    fractionLeft
  constructor
  case leads =>
    rw [placesLeft]
    exact number.leads_numeral
  case places =>
    rw [placesLeft]
    exact places.maximalRun fun c head => Or.inr (Or.inl (number.head_exponentText c head))
  case point =>
    rw [placesLeft, fractionLeft, writtenExponent]
    split <;> rfl
  case power =>
    rw [fractionLeft]
    exact number.splitExponent_numeral
  case ending => exact .absent fun _ impossible => by cases impossible

/-- The literal denotes the number that was written. -/
theorem value_numeral {number : Number} (natural : 0 ≤ number.val) : number.numeral.value = number := by
  obtain ⟨val, exp⟩ := number
  dsimp only at natural
  have whole : (Base.decimal.value (Nat.toDigits 10 val.natAbs ++ []) : ℤ) = val := by
    have same : Base.decimal.value (Nat.toDigits 10 val.natAbs) = val.natAbs :=
      Base.value_toDigits .decimal val.natAbs
    rw [List.append_nil, same, Int.natAbs_of_nonneg natural]
  have power : ((writtenExponent ⟨val, exp⟩).map Exponent.value).getD 0 - (0 : ℕ) = exp := by
    have same : Base.decimal.value (Nat.toDigits 10 exp.natAbs) = exp.natAbs :=
      Base.value_toDigits .decimal exp.natAbs
    by_cases zero : exp = 0
    · simp [writtenExponent, zero]
    · by_cases negative : exp < 0
      · simp only [writtenExponent, zero, negative, if_true, if_false, Option.map_some,
          Option.getD_some, Exponent.value, same]
        omega
      · simp only [writtenExponent, zero, negative, if_false, Option.map_some, Option.getD_some,
          Exponent.value, same, reduceCtorEq]
        omega
  exact congrArg₂ Number.mk whole power

theorem findings_numeral (number : Number) : number.numeral.findings = [] := by
  have places := Base.places_toDigits number.val.natAbs
  have whole : Numeral.foreignDigits .decimal 0 [] (Nat.toDigits 10 number.val.natAbs) = [] :=
    (Numeral.places_iff places.isPlace).mpr places
  have ending : number.numeral.endFindings = [] := by
    refine number.numeral.endFindings_eq_nil_iff.mpr ⟨rfl, fun exponent opened => ?_⟩
    replace opened : number.writtenExponent = some exponent := opened
    unfold writtenExponent at opened
    split at opened
    · cases opened
    · cases opened
      obtain ⟨c, member⟩ := List.exists_mem_of_ne_nil _ (Nat.toDigits_ne_nil (n := number.exp.natAbs))
      exact List.any_eq_true.mpr ⟨c, member, Base.isSome_digit?_iff.mpr
        (Base.decimal.hasDigit_of_mem_toDigits _ c member)⟩
  exact List.append_eq_nil_iff.mpr ⟨whole, ending⟩

/-- What is written is read as the literal of the number. -/
theorem read_display {number : Number} (natural : 0 ≤ number.val) :
    Numeral.read number.display.toList = number.numeral := by
  have reads := number.standsBefore_numeral.read_eq
  rwa [List.append_nil, ← toList_display natural] at reads

/-- What is written opens with a digit. -/
theorem display_opens {number : Number} (natural : 0 ≤ number.val) :
    ∃ first rest, number.display.toList = first :: rest ∧ first.isDigit = true := by
  rw [toList_display natural, text_numeral]
  cases digits : Nat.toDigits 10 number.val.natAbs with
  | nil => exact absurd digits Nat.toDigits_ne_nil
  | cons first others =>
      have digit := Base.decimal.hasDigit_of_mem_toDigits number.val.natAbs first
        (digits ▸ List.mem_cons_self)
      exact ⟨first, _, rfl, Base.hasDigit_decimal_iff.mp digit⟩

end Number

/-! ## Number tokens -/

/-- A digit is visible, opens no word, and is no quote. -/
theorem Character.of_isDigit {c : Char} (digit : c.isDigit = true) :
    isBlank c = false ∧ opensWord c = false ∧ c ≠ '\'' ∧ c ≠ '"' := by
  have each : ∀ code < 58, 48 ≤ code → isBlank (Char.ofNat code) = false ∧
      opensWord (Char.ofNat code) = false ∧ Char.ofNat code ≠ '\'' ∧ Char.ofNat code ≠ '"' := by
    decide
  obtain ⟨least, greatest⟩ :=
    (Base.le_and_le_iff_toNat '0' c '9').mp (Base.hasDigit_decimal_iff.mpr digit)
  have found := each c.toNat (Nat.lt_succ_of_le greatest) least
  rwa [Char.ofNat_toNat] at found

/-- Where no comment opens a digit opens a number. -/
theorem Lexeme.read_of_isDigit {lexicon : Lexicon} {first : Char} {rest : List Char}
    (unmarked : lexicon.markerAt? (first :: rest) = none) (digit : first.isDigit = true) :
    read lexicon first rest = .number (Numeral.read (first :: rest)) := by
  obtain ⟨-, noWord, noCharacter, noString⟩ := Character.of_isDigit digit
  rw [read_of_unmarked unmarked, if_neg (by simp [noWord]), if_neg noCharacter, if_neg noString,
    if_pos digit]

/-- A number that is not negative, written into a file where it opens no comment, is one token again:
the whole text, of the kind of that very number, without a diagnostic. A file in range is lexed so. -/
theorem Scanner.lex_display (number : Number) (natural : 0 ≤ number.val) (lexicon : Lexicon)
    (unmarked : ∀ marker, lexicon.commentMarker = some marker → marker ≠ "" →
      ¬ marker.toList <+: number.display.toList) (origin : ℕ) :
    (Source.File.mk origin number.display).tokens lexicon =
        [⟨.number number, number.display, origin⟩] ∧
      (Source.File.mk origin number.display).diagnostics lexicon = [] ∧
      ((Source.File.mk origin number.display).InRange →
        (Source.File.mk origin number.display).LexesTo lexicon
          [⟨.number number, number.display, origin⟩] []) := by
  obtain ⟨first, rest, opens, digit⟩ := Number.display_opens natural
  have none : lexicon.markerAt? (first :: rest) = none := by
    rw [Option.eq_none_iff_forall_ne_some]
    intro found marked
    obtain ⟨marker, given, nonempty, isPrefix, -⟩ := Lexicon.markerAt?_eq_some_iff.mp marked
    exact unmarked marker given nonempty (opens ▸ isPrefix)
  have reads : Lexeme.read lexicon first rest = .number number.numeral := by
    rw [Lexeme.read_of_isDigit none digit, ← opens, Number.read_display natural]
  have text : (Lexeme.read lexicon first rest).text = number.display.toList := by
    rw [reads]
    exact (Number.toList_display natural).symm
  have kind : (Lexeme.read lexicon first rest).kind lexicon = .number number := by
    rw [reads]
    exact congrArg TokenKind.number (Number.value_numeral natural)
  have whole : (Lexeme.read lexicon first rest).text ++ [] = first :: rest := by
    rw [List.append_nil, text, opens]
  have visible := (Character.of_isDigit digit).1
  have nothing : Reading.ofText lexicon [] = ⟨[], []⟩ := Reading.readAfter_of_blank lexicon 0 [] rfl
  have tokens : (Source.File.mk origin number.display).tokens lexicon =
      [⟨.number number, number.display, origin⟩] := by
    rw [Source.File.tokens, Source.File.reading, opens,
      Reading.tokens_of_visible visible whole (by rw [reads]; rfl), nothing, kind, text,
      String.ofList_toList]
    rfl
  have diagnostics : (Source.File.mk origin number.display).diagnostics lexicon = [] := by
    rw [Source.File.diagnostics, Source.File.reading, opens,
      Reading.diagnostics_of_visible visible whole (by rw [reads]; exact number.findings_numeral),
      nothing]
    rfl
  refine ⟨tokens, diagnostics, fun inRange => ?_⟩
  have lexes := Source.File.lexesTo_of_inRange inRange lexicon
  rwa [tokens, diagnostics] at lexes

/-- Zero with a negative exponent, where `0e` is a symbol and a longer text opens comments. -/
theorem Scanner.lex_display_zero :
    (0 : ℤ) ≤ (Number.mk 0 (-30)).val ∧
      (Source.File.mk 5 (Number.mk 0 (-30)).display).InRange ∧
      (Source.File.mk 5 (Number.mk 0 (-30)).display).LexesTo ⟨["e"], ["0e"], some "0e-300", false⟩
        [⟨.number ⟨0, -30⟩, "0e-30", 5⟩] [] := by
  refine ⟨by decide, by decide, ?_⟩
  refine (Scanner.lex_display ⟨0, -30⟩ (by decide) ⟨["e"], ["0e"], some "0e-300", false⟩ ?unmarked
    5).2.2 (by decide)
  case unmarked =>
    rintro marker given -
    cases given
    decide

end Lexing
