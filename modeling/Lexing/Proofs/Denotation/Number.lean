import Lexing.Proofs.Context.Lexeme
import Lexing.Proofs.Digits
import Lexing.Proofs.Scanner
import Mathlib.Algebra.Order.Field.Rat
import Mathlib.Tactic.FieldSimp

/-! # What number literals denote

A number literal denotes the number that its digits write: those of the base, before and behind the
point, times the power of ten that the exponent names. What the literal consists of is said by the
rules of its parts alone, which leave no choice in how its text divides, and holds of literals with
faults too: places that are no digits of the base, and the suffix, count for nothing. -/

namespace Lexing

open Lexeme
open Text (MaximalRun)

/-- The texts of the parts of a number literal. A fraction has its point, an exponent its letter and
its sign. -/
structure NumberParts where
  base : Base
  lead : List Char
  whole : List Char
  fraction : List Char
  exponent : List Char
  suffix : List Char

namespace NumberParts

/-- The parts make up a text, and each of them is as long as its rule has it. -/
structure Divide (parts : NumberParts) (text : List Char) : Prop where
  text_eq : text =
    parts.lead ++ (parts.whole ++ (parts.fraction ++ (parts.exponent ++ parts.suffix)))
  leads : LeadRule parts.base parts.lead
    (parts.whole ++ (parts.fraction ++ (parts.exponent ++ parts.suffix)))
  places : MaximalRun parts.base.isPlace parts.whole
    (parts.fraction ++ (parts.exponent ++ parts.suffix))
  point : FractionRule parts.base parts.fraction (parts.exponent ++ parts.suffix)
  power : ExponentRule parts.base parts.exponent parts.suffix
  ending : SuffixRule parts.suffix []

/-- The digits of the mantissa. -/
def mantissa (parts : NumberParts) : List ℕ :=
  parts.base.digits (parts.whole ++ parts.fraction)

/-- How many digits stand behind the point. -/
def fractionDigits (parts : NumberParts) : ℕ := (parts.base.digits parts.fraction).length

/-- The power of ten that the exponent names: its digits, and a minus if there is one. -/
def tenPower (parts : NumberParts) : ℤ :=
  if '-' ∈ parts.exponent then -(Base.decimal.written parts.exponent : ℤ)
  else Base.decimal.written parts.exponent

/-- The value of the parts: the digits before the point, those behind it as tenths, hundredths and so
on, and the power of ten. -/
def value (parts : NumberParts) : ℚ :=
  (parts.base.written parts.whole + parts.base.written parts.fraction / 10 ^ parts.fractionDigits) *
    10 ^ parts.tenPower

/-- A number is the one that the parts write: its integer is written by the digits of the mantissa, its
exponent is the power of ten less the digits behind the point, and its value is theirs. -/
structure Denote (parts : NumberParts) (number : Number) : Prop where
  val : number.val = Nat.ofDigits parts.base.radix parts.mantissa.reverse
  exp : number.exp = parts.tenPower - parts.fractionDigits
  value : (number.val : ℚ) * 10 ^ number.exp = parts.value

end NumberParts

/-! ## Dividing a literal -/

/-- The parts of a literal that is read. -/
def Lexeme.Numeral.parts (numeral : Numeral) : NumberParts where
  base := numeral.base
  lead := numeral.lead
  whole := numeral.whole
  fraction := Numeral.fractionText numeral.fraction
  exponent := Numeral.exponentText numeral.exponent
  suffix := numeral.suffix

namespace NumberParts

/-- Where a literal ends the text its parts divide it. -/
theorem divide_of_standsBefore {numeral : Numeral} (stands : numeral.StandsBefore []) :
    numeral.parts.Divide numeral.text := by
  have leads := stands.leads
  have places := stands.places
  have point := fractionRule_split numeral.base (numeral.afterWhole [])
  have power := exponentRule_split numeral.base (numeral.afterFraction [])
  rw [stands.point] at point
  rw [stands.power] at power
  simp only [Numeral.afterWhole, Numeral.afterFraction, Numeral.afterExponent, List.append_nil]
    at leads places point power
  constructor
  case text_eq => simp only [Numeral.text, Numeral.body, Numeral.parts, List.append_assoc]
  case leads => exact leads
  case places => exact places
  case point => exact point
  case power => exact power
  case ending => exact stands.ending

/-- A text divides in one way, which is that of the literal read from it. -/
theorem Divide.eq_parts_read {parts : NumberParts} {text : List Char} (divide : parts.Divide text) :
    parts = (Numeral.read text).parts := by
  obtain ⟨base, lead, whole, fraction, exponent, suffix⟩ := parts
  obtain ⟨rfl, leads, places, point, power, ending⟩ := divide
  dsimp only at leads places point power ending ⊢
  obtain ⟨fractionEq, afterFraction⟩ := point.split_eq
  obtain ⟨exponentEq, afterExponent⟩ := power.split_eq
  have suffixEq := ending.suffixOf_eq
  rw [List.append_nil] at suffixEq
  simp only [Numeral.read, Numeral.parts, leads.detect_eq, List.drop_left, places.takeWhile_append,
    places.dropWhile_append, fractionEq, afterFraction, exponentEq, afterExponent, suffixEq]

/-! ## The value of a literal -/

theorem digits_cons_of_isNone (base : Base) {c : Char} (other : base.digit? c = none)
    (rest : List Char) : base.digits (c :: rest) = base.digits rest := by
  rw [← Base.filterMap_digit?, ← Base.filterMap_digit?, List.filterMap_cons_none other]

/-- The point is no digit. -/
theorem digits_fractionText (base : Base) (fraction : Option (List Char)) :
    base.digits (Numeral.fractionText fraction) = base.digits (fraction.getD []) := by
  cases fraction with
  | none => rfl
  | some places => exact digits_cons_of_isNone base (by cases base <;> decide) places

/-- Neither the letter nor the sign of an exponent is a digit. -/
theorem digits_text_exponent {exponent : Exponent} (letter : exponent.mark = 'e' ∨ exponent.mark = 'E')
    (signed : exponent.sign.toList = [] ∨ exponent.sign.toList = ['-'] ∨ exponent.sign.toList = ['+']) :
    Base.decimal.digits exponent.text = Base.decimal.digits exponent.places := by
  have mark : Base.decimal.digit? exponent.mark = none := by
    rcases letter with same | same <;> rw [same] <;> decide
  rw [Exponent.text, digits_cons_of_isNone _ mark]
  rcases signed with same | same | same <;> rw [same]
  · rfl
  · exact digits_cons_of_isNone _ (by decide) _
  · exact digits_cons_of_isNone _ (by decide) _

/-- An exponent has a minus in its text exactly if that is its sign. -/
theorem minus_mem_text_iff {exponent : Exponent} (letter : exponent.mark = 'e' ∨ exponent.mark = 'E')
    (inside : ∀ c ∈ exponent.places, Base.decimal.isPlace c = true) :
    '-' ∈ exponent.text ↔ exponent.sign = some '-' := by
  have notMark : '-' ≠ exponent.mark := by
    rcases letter with same | same <;> rw [same] <;> decide
  have notPlace : '-' ∉ exponent.places := fun member => absurd (inside '-' member) (by decide)
  rw [Exponent.text, List.mem_cons, List.mem_append, or_iff_right notMark, or_iff_left notPlace]
  exact Option.mem_toList

/-- The power of ten of a literal is the one that its exponent names. -/
theorem tenPower_parts {numeral : Numeral} {after : List Char} (stands : numeral.StandsBefore after) :
    (numeral.exponent.map Exponent.value).getD 0 = numeral.parts.tenPower := by
  unfold tenPower
  rw [Numeral.parts]
  cases found : numeral.exponent with
  | none => rfl
  | some exponent =>
      obtain ⟨-, letter, run, behind, signing⟩ :=
        Numeral.splitExponent_eq_some (stands.power.trans (by rw [found]))
      have signed := (signRule_split behind).sign_cases
      rw [signing] at signed
      dsimp only [Numeral.exponentText, Option.map_some, Option.getD_some, Exponent.value]
      rw [Base.value_eq_written, Base.written, Base.written, digits_text_exponent letter signed]
      simp only [minus_mem_text_iff letter run.inside]

/-- In every base but ten there is no fraction, so tenths count in base ten only. -/
theorem radix_pow_fractionDigits {numeral : Numeral} {after : List Char}
    (stands : numeral.StandsBefore after) :
    numeral.base.radix ^ numeral.parts.fractionDigits = 10 ^ numeral.parts.fractionDigits := by
  by_cases ten : numeral.base = .decimal
  · rw [ten]
    rfl
  · have none : numeral.parts.fractionDigits = 0 := by
      rw [fractionDigits, Numeral.parts, stands.fraction_eq_none ten]
      rfl
    rw [none, Nat.pow_zero, Nat.pow_zero]

/-- A literal denotes the number that its parts write. -/
theorem denote_value {numeral : Numeral} {after : List Char} (stands : numeral.StandsBefore after) :
    numeral.parts.Denote numeral.value := by
  have fraction := digits_fractionText numeral.base numeral.fraction
  have digits : numeral.base.digits numeral.mantissa = numeral.parts.mantissa := by
    rw [Numeral.mantissa, mantissa, Base.digits_append, Numeral.parts, Base.digits_append, fraction]
  have count : numeral.fractionDigits = numeral.parts.fractionDigits := by
    rw [Numeral.fractionDigits, Base.filterMap_digit?, fractionDigits, ← fraction]
    rfl
  have val : numeral.value.val = numeral.base.written numeral.mantissa :=
    congrArg Nat.cast (Base.value_eq_written _ _)
  have exp : numeral.value.exp = numeral.parts.tenPower - numeral.parts.fractionDigits := by
    rw [Numeral.value, tenPower_parts stands, count]
  refine ⟨?val, exp, ?value⟩
  case val =>
    rw [val, Base.written, digits]
    rfl
  case value =>
    have split : numeral.base.written numeral.mantissa =
        numeral.parts.base.written numeral.parts.whole * 10 ^ numeral.parts.fractionDigits +
          numeral.parts.base.written numeral.parts.fraction := by
      rw [← radix_pow_fractionDigits stands, Base.written, digits, mantissa]
      exact Base.written_append _ _ _
    have nonzero : (10 : ℚ) ^ numeral.parts.fractionDigits ≠ 0 := pow_ne_zero _ (by norm_num)
    calc (numeral.value.val : ℚ) * 10 ^ numeral.value.exp
        = (numeral.base.written numeral.mantissa : ℚ) *
            (10 ^ numeral.parts.tenPower / 10 ^ numeral.parts.fractionDigits) := by
          rw [val, exp, zpow_sub₀ (by norm_num), zpow_natCast, Int.cast_natCast]
      _ = numeral.parts.value := by
          rw [split, NumberParts.value]
          push_cast
          field_simp

/-- A foreign digit, a suffix with digits of its own, and a power without digits. -/
example : (Numeral.read "01_9_7".toList).value = ⟨15, 0⟩ ∧
    (Numeral.read "1_2.5_0e-3x9".toList).value = ⟨1250, -5⟩ ∧
    (Numeral.read "7.e-_".toList).value = ⟨7, 0⟩ := by decide

end NumberParts

/-! ## Number tokens -/

/-- The numbers of a text are read by the rule of numbers. -/
theorem Lexeme.eq_numeral_read {lexicon : Lexicon} {first : Char} {rest : List Char}
    {numeral : Numeral} (number : read lexicon first rest = .number numeral) :
    numeral = Numeral.read (first :: rest) := by
  revert number
  refine read_cases lexicon first rest ?comment ?word ?character ?string ?number ?symbol ?invalid
  case number => exact fun _ same => (Lexeme.number.inj same).symm
  all_goals
    intros
    contradiction

/-- A number in a text is read where it stands. -/
theorem Segment.StandsIn.numeral_standsBefore {lexicon : Lexicon} {offset : Nat} {text : List Char}
    {segment : Segment} {numeral : Numeral} (stands : segment.StandsIn lexicon offset text)
    (number : segment.lexeme = .number numeral) : ∃ after, numeral.StandsBefore after := by
  cases stands with
  | intro before first rest after visible whole =>
      rw [Lexeme.eq_numeral_read number]
      obtain ⟨behind, -, read⟩ := Numeral.standsBefore_read (first :: rest)
      exact ⟨behind, read⟩

/-- The lexeme of a number token is a number literal of that value. -/
theorem Lexeme.kind_eq_number {lexicon : Lexicon} {lexeme : Lexeme} {number : Number}
    (kind : lexeme.kind lexicon = .number number) :
    ∃ numeral, lexeme = .number numeral ∧ numeral.value = number := by
  cases lexeme with
  | number numeral =>
      cases kind
      exact ⟨numeral, rfl, rfl⟩
  | word letters =>
      rw [Lexeme.kind, Lexicon.wordKind] at kind
      split at kind <;> cases kind
  | _ => cases kind

/-- Every call returns if all that is left has positions, and the text of each number that a call
returns divides into parts in one way, and the number is the one that these parts write. -/
theorem Scanner.lex_numbers_denote (scanner : Scanner) (log : Log) :
    (scanner.position + Text.width scanner.rest < Position.limit →
      ∃ tokens, (Scanner.lex scanner log).1 = .ok tokens) ∧
    ∀ tokens, (Scanner.lex scanner log).1 = .ok tokens →
      ∀ token ∈ tokens, ∀ number, token.kind = .number number →
        ∃ parts : NumberParts,
          (∀ other : NumberParts, other.Divide token.text.toList ↔ other = parts) ∧
            parts.Denote number := by
  refine ⟨fun room => Scanner.lex_returns room log, ?denote⟩
  case denote =>
    intro tokens called token member number kind
    rw [Scanner.tokens_of_lex called] at member
    obtain ⟨segment, kept, rfl⟩ := List.mem_map.mp member
    obtain ⟨numeral, isNumber, rfl⟩ := Lexeme.kind_eq_number kind
    obtain ⟨behind, stands⟩ :=
      (Reading.standsIn_of_mem (List.mem_filter.mp kept).1).numeral_standsBefore isNumber
    rw [Segment.text_token, isNumber, Lexeme.text]
    -- nothing behind the literal matters to what is read of it
    have alone := stands.of_replaces (Text.Replaces.nil behind)
    have again := alone.read_eq
    rw [List.append_nil] at again
    refine ⟨numeral.parts, fun other => ⟨fun divide => ?_, ?_⟩, NumberParts.denote_value stands⟩
    · exact divide.eq_parts_read.trans (congrArg Numeral.parts again)
    · rintro rfl
      exact NumberParts.divide_of_standsBefore alone

/-- Numbers of all four bases, with and without faults, behind one another in a file. -/
theorem Scanner.lex_numbers_denote_bases :
    ∃ tokens,
      (Scanner.lex (.ofFile ⟨3, "0x_fE 01_9.5 1_2.5e-3x9 0b2 0o7e 9E"⟩ .standard) Log.empty).1 =
        .ok tokens ∧
      ∀ token ∈ tokens, ∀ number, token.kind = .number number →
        ∃ parts : NumberParts,
          (∀ other : NumberParts, other.Divide token.text.toList ↔ other = parts) ∧
            parts.Denote number := by
  obtain ⟨returns, denote⟩ := Scanner.lex_numbers_denote
    (.ofFile ⟨3, "0x_fE 01_9.5 1_2.5e-3x9 0b2 0o7e 9E"⟩ .standard) Log.empty
  obtain ⟨tokens, called⟩ := returns (by decide)
  exact ⟨tokens, called, denote tokens called⟩

end Lexing
