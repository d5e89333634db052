import Lexing.Proofs.Rules.Number

/-! # Number literals in another context

Every part of a number literal ends where a character that it cannot hold follows, and none can hold a
new line. A literal is therefore read alike before a new line, before nothing, and before any text that
opens as the one behind it does. -/

namespace Lexing.Lexeme

open Text (MaximalRun Replaces)

theorem Base.isPlace_newline (base : Base) : base.isPlace '\n' = false := by
  cases base <;> decide

theorem Base.isPlace_of_isDigit (base : Base) {c : Char} (digit : c.isDigit = true) :
    base.isPlace c = true := by
  simp [isPlace, digit]

/-- What gives the base of a literal does so in another context, if no digit is lost behind it. -/
theorem LeadRule.of_replaces {base : Base} {lead letters after other : List Char}
    (rule : LeadRule base lead (letters ++ after)) (replaces : Replaces other after)
    (kept : letters = [] → ∀ c, after.head? = some c → c.isDigit = false) :
    LeadRule base lead (letters ++ other) := by
  generalize behind : letters ++ after = whole at rule
  cases rule with
  | hexadecimal => exact .hexadecimal
  | binary => exact .binary
  | octal => exact .octal
  | @zero next rest digit =>
      cases letters with
      | nil =>
          rw [List.nil_append] at behind
          rw [kept rfl next (by rw [behind]; rfl)] at digit
          cases digit
      | cons first others =>
          cases behind
          exact .zero digit
  | decimal plain =>
      refine .decimal fun next rest same => ?_
      cases letters with
      | nil =>
          rcases replaces '0' (by rw [← List.nil_append other, same]; rfl) with head | impossible
          · have digit := kept rfl '0' head
            cases digit
          · cases impossible
      | cons first others =>
          obtain ⟨rfl, tail⟩ := List.cons.inj same
          have moved := replaces.append_left others
          rcases moved next (List.head?_eq_some_iff.mpr ⟨rest, tail⟩) with head | rfl
          · obtain ⟨more, followed⟩ := List.head?_eq_some_iff.mp head
            exact plain next more (by rw [← behind, List.cons_append, followed])
          · decide

theorem FractionRule.of_replaces {base : Base} {fraction after other : List Char}
    (rule : FractionRule base fraction after) (replaces : Replaces other after) :
    FractionRule base fraction other := by
  cases rule with
  | point ten run => exact .point ten (run.of_replaces replaces base.isPlace_newline)
  | absent none =>
      refine .absent fun ten head => ?_
      rcases replaces '.' head with here | impossible
      · exact none ten here
      · cases impossible

theorem SignRule.of_replaces {sign after other : List Char} (rule : SignRule sign after)
    (replaces : Replaces other after) : SignRule sign other := by
  cases rule with
  | minus => exact .minus
  | plus => exact .plus
  | absent none => exact .absent (replaces.head none (by decide))

theorem SuffixRule.of_replaces {suffix after other : List Char} (rule : SuffixRule suffix after)
    (replaces : Replaces other after) : SuffixRule suffix other := by
  cases rule with
  | letters opens run => exact .letters opens (run.of_replaces replaces (by decide))
  | absent none => exact .absent (replaces.head none (by decide))

namespace Numeral

theorem splitFraction_of_replaces {base : Base} {text rest other : List Char}
    {fraction : Option (List Char)} (split : splitFraction base text = (fraction, rest))
    (replaces : Replaces other rest) :
    splitFraction base (fractionText fraction ++ other) = (fraction, other) := by
  have rule := fractionRule_split base text
  rw [split] at rule
  obtain ⟨spelled, left⟩ := (rule.of_replaces replaces).split_eq
  refine Prod.ext ?_ left
  generalize (splitFraction base (fractionText fraction ++ other)).1 = reread at spelled
  cases fraction <;> cases reread <;> simp_all [fractionText]

theorem splitSign_of_replaces {text rest other : List Char} {sign : Option Char}
    (split : splitSign text = (sign, rest)) (replaces : Replaces other rest) :
    splitSign (sign.toList ++ other) = (sign, other) := by
  have rule := signRule_split text
  rw [split] at rule
  obtain ⟨spelled, left⟩ := (rule.of_replaces replaces).split_eq
  refine Prod.ext ?_ left
  generalize (splitSign (sign.toList ++ other)).1 = reread at spelled
  cases sign <;> cases reread <;> simp_all

theorem splitExponent_marked {base : Base} {mark : Char} {text places rest : List Char}
    {sign : Option Char} (ten : base = .decimal) (letter : mark = 'e' ∨ mark = 'E')
    (signed : splitSign text = (sign, places ++ rest))
    (run : MaximalRun Base.decimal.isPlace places rest) :
    splitExponent base (mark :: text) = (some ⟨mark, sign, places⟩, rest) := by
  rw [splitExponent, if_pos ⟨ten, letter⟩]
  simp only [signed, run.takeWhile_append, run.dropWhile_append]

theorem splitExponent_absent {base : Base} {text : List Char}
    (none : ∀ c, text.head? = some c → ¬ (base = .decimal ∧ (c = 'e' ∨ c = 'E'))) :
    splitExponent base text = (.none, text) := by
  cases text with
  | nil => rfl
  | cons first rest => rw [splitExponent, if_neg (none first rfl)]

/-- What an exponent that is read consists of. -/
theorem splitExponent_eq_some {base : Base} {text rest : List Char} {exponent : Exponent}
    (split : splitExponent base text = (some exponent, rest)) :
    base = .decimal ∧ (exponent.mark = 'e' ∨ exponent.mark = 'E') ∧
      MaximalRun Base.decimal.isPlace exponent.places rest ∧
      ∃ behind, splitSign behind = (exponent.sign, exponent.places ++ rest) := by
  cases text with
  | nil => cases split
  | cons mark behind =>
      by_cases opens : base = .decimal ∧ (mark = 'e' ∨ mark = 'E')
      · rw [splitExponent, if_pos opens] at split
        cases split
        refine ⟨opens.1, opens.2, .of_split Base.decimal.isPlace _, behind, ?_⟩
        rw [List.takeWhile_append_dropWhile]
      · rw [splitExponent, if_neg opens] at split
        cases split

/-- Where no exponent is read no letter opens one. -/
theorem splitExponent_eq_none {base : Base} {text rest : List Char}
    (split : splitExponent base text = (none, rest)) :
    text = rest ∧ ∀ c, text.head? = some c → ¬ (base = .decimal ∧ (c = 'e' ∨ c = 'E')) := by
  have none : ∀ c, text.head? = some c → ¬ (base = .decimal ∧ (c = 'e' ∨ c = 'E')) := by
    intro c head mark
    obtain ⟨behind, rfl⟩ := List.head?_eq_some_iff.mp head
    rw [splitExponent, if_pos mark] at split
    cases split
  rw [splitExponent_absent none] at split
  exact ⟨congrArg Prod.snd split, none⟩

theorem splitExponent_of_replaces {base : Base} {text rest other : List Char}
    {exponent : Option Exponent} (split : splitExponent base text = (exponent, rest))
    (replaces : Replaces other rest) :
    splitExponent base (exponentText exponent ++ other) = (exponent, other) := by
  cases exponent with
  | none =>
      obtain ⟨rfl, none⟩ := splitExponent_eq_none split
      exact splitExponent_absent (replaces.head none (by simp))
  | some exponent =>
      obtain ⟨ten, letter, run, behind, signed⟩ := splitExponent_eq_some split
      rw [exponentText, Exponent.text, List.cons_append, List.append_assoc]
      exact splitExponent_marked ten letter
        (splitSign_of_replaces signed (replaces.append_left exponent.places))
        (run.of_replaces replaces (Base.isPlace_newline .decimal))

/-- A literal that is read again in another context. -/
theorem StandsBefore.of_replaces {numeral : Numeral} {after other : List Char}
    (stands : numeral.StandsBefore after) (replaces : Replaces other after) :
    numeral.StandsBefore other := by
  have third := replaces.append_left numeral.suffix
  have second := third.append_left (exponentText numeral.exponent)
  have first := second.append_left (fractionText numeral.fraction)
  constructor
  case leads =>
    refine stands.leads.of_replaces first fun _ c head => ?_
    have outside := stands.places.stops c head
    simp only [Base.isPlace, Bool.or_eq_false_iff] at outside
    exact outside.2
  case places => exact stands.places.of_replaces first numeral.base.isPlace_newline
  case point => exact splitFraction_of_replaces stands.point second
  case power => exact splitExponent_of_replaces stands.power third
  case ending => exact stands.ending.of_replaces replaces

theorem read_of_replaces {text after other : List Char}
    (whole : (read text).text ++ after = text) (replaces : Replaces other after) :
    read ((read text).text ++ other) = read text := by
  obtain ⟨left, parts, stands⟩ := standsBefore_read text
  have same : left = after := List.append_cancel_left (parts.trans whole.symm)
  exact (stands.of_replaces (same ▸ replaces)).read_eq

end Numeral

end Lexing.Lexeme
