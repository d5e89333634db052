import Lexing.Proofs.Run
import Lexing.Lexeme.Numeral

/-! # Rules of number literals

A number literal is a row of parts, each of which takes as much as it can: what gives the base, the
places, in base ten a fraction and an exponent, and the letters that follow at once. Every part has a
rule of its own, which is met by what is read and by nothing else. -/

namespace Lexing.Lexeme

open Text (MaximalRun)

/-- The characters that give the base of a literal, and what follows them. -/
inductive LeadRule : Base → List Char → List Char → Prop where
  | hexadecimal {after : List Char} : LeadRule .hexadecimal ['0', 'x'] after
  | binary {after : List Char} : LeadRule .binary ['0', 'b'] after
  | octal {after : List Char} : LeadRule .octal ['0', 'o'] after
  | zero {next : Char} {rest : List Char} (digit : next.isDigit = true) :
      LeadRule .octal ['0'] (next :: rest)
  | decimal {after : List Char}
      (plain : ∀ next rest, after = '0' :: next :: rest →
        next ≠ 'x' ∧ next ≠ 'b' ∧ next ≠ 'o' ∧ next.isDigit = false) :
      LeadRule .decimal [] after

/-- A point and the places behind it, in base ten, and what follows them. -/
inductive FractionRule (base : Base) : List Char → List Char → Prop where
  | point {places after : List Char} (ten : base = .decimal)
      (run : MaximalRun base.isPlace places after) : FractionRule base ('.' :: places) after
  | absent {after : List Char} (other : base = .decimal → after.head? ≠ some '.') :
      FractionRule base [] after

/-- At most one sign, and what follows it. -/
inductive SignRule : List Char → List Char → Prop where
  | minus {after : List Char} : SignRule ['-'] after
  | plus {after : List Char} : SignRule ['+'] after
  | absent {after : List Char} (other : ∀ c, after.head? = some c → c ≠ '-' ∧ c ≠ '+') :
      SignRule [] after

/-- A letter, a sign and places, in base ten, and what follows them. -/
inductive ExponentRule (base : Base) : List Char → List Char → Prop where
  | marked {mark : Char} {sign places after : List Char} (ten : base = .decimal)
      (letter : mark = 'e' ∨ mark = 'E') (signed : SignRule sign (places ++ after))
      (run : MaximalRun Base.decimal.isPlace places after) :
      ExponentRule base (mark :: (sign ++ places)) after
  | absent {after : List Char}
      (other : ∀ c, after.head? = some c → ¬ (base = .decimal ∧ (c = 'e' ∨ c = 'E'))) :
      ExponentRule base [] after

/-- A word that opens with an alphabetic character, and what follows it. -/
inductive SuffixRule : List Char → List Char → Prop where
  | letters {first : Char} {rest after : List Char} (opens : Character.isAlphabetic first = true)
      (run : MaximalRun Character.continuesWord rest after) : SuffixRule (first :: rest) after
  | absent {after : List Char}
      (other : ∀ c, after.head? = some c → Character.isAlphabetic c = false) : SuffixRule [] after

/-- A number literal at the head of a text. -/
inductive NumberRule : List Char → List Char → Prop where
  | intro {base : Base} {lead whole fraction exponent suffix after : List Char}
      (leads : LeadRule base lead (whole ++ (fraction ++ (exponent ++ (suffix ++ after)))))
      (places : MaximalRun base.isPlace whole (fraction ++ (exponent ++ (suffix ++ after))))
      (point : FractionRule base fraction (exponent ++ (suffix ++ after)))
      (power : ExponentRule base exponent (suffix ++ after))
      (ending : SuffixRule suffix after) :
      NumberRule (lead ++ (whole ++ (fraction ++ (exponent ++ (suffix ++ after)))))
        (lead ++ (whole ++ (fraction ++ (exponent ++ suffix))))

/-! ## Parts -/

theorem LeadRule.detect_eq {base : Base} {lead after : List Char}
    (rule : LeadRule base lead after) : Base.detect (lead ++ after) = (base, lead) := by
  cases rule with
  | hexadecimal => rfl
  | binary => rfl
  | octal => rfl
  | @zero next rest digit =>
      rw [List.singleton_append]
      unfold Base.detect
      split
      all_goals rename_i same
      · cases same
        cases digit
      · cases same
        cases digit
      · cases same
        cases digit
      · cases same
        rw [if_pos digit]
      · exact absurd rfl (same next rest)
  | decimal plain =>
      rw [List.nil_append]
      unfold Base.detect
      split
      · exact absurd rfl (plain _ _ rfl).1
      · exact absurd rfl (plain _ _ rfl).2.1
      · exact absurd rfl (plain _ _ rfl).2.2.1
      · rw [(plain _ _ rfl).2.2.2]
        rfl
      · rfl

theorem leadRule_detect (text : List Char) :
    ∃ after, text = (Base.detect text).2 ++ after ∧
      LeadRule (Base.detect text).1 (Base.detect text).2 after := by
  unfold Base.detect
  split
  · exact ⟨_, rfl, .hexadecimal⟩
  · exact ⟨_, rfl, .binary⟩
  · exact ⟨_, rfl, .octal⟩
  · rename_i next rest notX notB notO
    split
    · rename_i digit
      exact ⟨_, rfl, .zero digit⟩
    · rename_i notDigit
      refine ⟨_, rfl, .decimal fun other more same => ?_⟩
      cases same
      exact ⟨notX, notB, notO, Bool.eq_false_iff.mpr notDigit⟩
  · rename_i none
    exact ⟨_, rfl, .decimal fun next rest same => absurd same (none next rest)⟩

theorem fractionRule_split (base : Base) (text : List Char) :
    FractionRule base (Numeral.fractionText (Numeral.splitFraction base text).1)
      (Numeral.splitFraction base text).2 := by
  unfold Numeral.splitFraction
  split
  · rename_i rest
    by_cases ten : base = .decimal
    · rw [if_pos ten]
      exact .point ten (MaximalRun.of_split base.isPlace rest)
    · rw [if_neg ten]
      exact .absent fun yes => absurd yes ten
  · rename_i other
    refine .absent fun ten head => ?_
    cases text with
    | nil => cases head
    | cons first rest =>
        cases head
        exact other rest rfl

theorem FractionRule.split_eq {base : Base} {fraction after : List Char}
    (rule : FractionRule base fraction after) :
    Numeral.fractionText (Numeral.splitFraction base (fraction ++ after)).1 = fraction ∧
      (Numeral.splitFraction base (fraction ++ after)).2 = after := by
  cases rule with
  | point ten run =>
      rw [List.cons_append, Numeral.splitFraction, if_pos ten, run.takeWhile_append,
        run.dropWhile_append]
      exact ⟨rfl, rfl⟩
  | absent other =>
      rw [List.nil_append]
      unfold Numeral.splitFraction
      split
      · rw [if_neg fun ten => other ten rfl]
        exact ⟨rfl, rfl⟩
      · exact ⟨rfl, rfl⟩

theorem signRule_split (text : List Char) :
    SignRule (Numeral.splitSign text).1.toList (Numeral.splitSign text).2 := by
  unfold Numeral.splitSign
  split
  · exact .minus
  · exact .plus
  · rename_i notMinus notPlus
    refine .absent fun c head => ?_
    cases text with
    | nil => cases head
    | cons first rest =>
        cases head
        exact ⟨fun same => notMinus rest (by rw [same]), fun same => notPlus rest (by rw [same])⟩

theorem SignRule.split_eq {sign after : List Char} (rule : SignRule sign after) :
    (Numeral.splitSign (sign ++ after)).1.toList = sign ∧
      (Numeral.splitSign (sign ++ after)).2 = after := by
  cases rule with
  | minus => exact ⟨rfl, rfl⟩
  | plus => exact ⟨rfl, rfl⟩
  | absent other =>
      rw [List.nil_append]
      unfold Numeral.splitSign
      split
      · exact absurd rfl (other _ rfl).1
      · exact absurd rfl (other _ rfl).2
      · exact ⟨rfl, rfl⟩

theorem exponentRule_split (base : Base) (text : List Char) :
    ExponentRule base (Numeral.exponentText (Numeral.splitExponent base text).1)
      (Numeral.splitExponent base text).2 := by
  cases text with
  | nil => exact .absent fun _ impossible => by cases impossible
  | cons mark rest =>
      by_cases opens : base = .decimal ∧ (mark = 'e' ∨ mark = 'E')
      · rw [Numeral.splitExponent, if_pos opens]
        have run := MaximalRun.of_split Base.decimal.isPlace (Numeral.splitSign rest).2
        have signed := signRule_split rest
        rw [← List.takeWhile_append_dropWhile (p := Base.decimal.isPlace)
          (l := (Numeral.splitSign rest).2)] at signed
        exact .marked opens.1 opens.2 signed run
      · rw [Numeral.splitExponent, if_neg opens]
        refine .absent fun c head => ?_
        cases head
        exact opens

theorem ExponentRule.split_eq {base : Base} {exponent after : List Char}
    (rule : ExponentRule base exponent after) :
    Numeral.exponentText (Numeral.splitExponent base (exponent ++ after)).1 = exponent ∧
      (Numeral.splitExponent base (exponent ++ after)).2 = after := by
  cases rule with
  | @marked mark sign places after ten letter signed run =>
      obtain ⟨signEq, left⟩ := signed.split_eq
      rw [List.cons_append, List.append_assoc, Numeral.splitExponent, if_pos ⟨ten, letter⟩]
      simp only [left, run.takeWhile_append, run.dropWhile_append, Numeral.exponentText,
        Exponent.text, signEq, and_self]
  | absent other =>
      rw [List.nil_append]
      cases after with
      | nil => exact ⟨rfl, rfl⟩
      | cons first rest =>
          rw [Numeral.splitExponent, if_neg (other first rfl)]
          exact ⟨rfl, rfl⟩

theorem suffixRule_suffixOf (text : List Char) :
    ∃ after, text = Numeral.suffixOf text ++ after ∧
      SuffixRule (Numeral.suffixOf text) after := by
  cases text with
  | nil => exact ⟨[], rfl, .absent fun _ impossible => by cases impossible⟩
  | cons first rest =>
      by_cases opens : Character.isAlphabetic first = true
      · rw [Numeral.suffixOf, if_pos opens]
        refine ⟨rest.dropWhile Character.continuesWord, ?_, .letters opens (.of_split _ rest)⟩
        rw [List.cons_append, List.takeWhile_append_dropWhile]
      · rw [Numeral.suffixOf, if_neg opens]
        refine ⟨first :: rest, rfl, .absent fun c head => ?_⟩
        cases head
        exact Bool.eq_false_iff.mpr opens

theorem SuffixRule.suffixOf_eq {suffix after : List Char} (rule : SuffixRule suffix after) :
    Numeral.suffixOf (suffix ++ after) = suffix := by
  cases rule with
  | letters opens run => rw [List.cons_append, Numeral.suffixOf, if_pos opens, run.takeWhile_append]
  | absent other =>
      cases after with
      | nil => rfl
      | cons first rest =>
          rw [List.nil_append, Numeral.suffixOf, if_neg (by simp [other first rfl])]

/-! ## Literals -/

namespace Numeral

/-- What the exponent of a literal leaves. -/
def afterExponent (numeral : Numeral) (after : List Char) : List Char := numeral.suffix ++ after

/-- What the fraction of a literal leaves. -/
def afterFraction (numeral : Numeral) (after : List Char) : List Char :=
  exponentText numeral.exponent ++ numeral.afterExponent after

/-- What the places before the point of a literal leave. -/
def afterWhole (numeral : Numeral) (after : List Char) : List Char :=
  fractionText numeral.fraction ++ numeral.afterFraction after

/-- Each part of a literal ends where the next one begins, and the last one before a given text. -/
structure StandsBefore (numeral : Numeral) (after : List Char) : Prop where
  leads : LeadRule numeral.base numeral.lead (numeral.whole ++ numeral.afterWhole after)
  places : MaximalRun numeral.base.isPlace numeral.whole (numeral.afterWhole after)
  point : splitFraction numeral.base (numeral.afterWhole after) =
    (numeral.fraction, numeral.afterFraction after)
  power : splitExponent numeral.base (numeral.afterFraction after) =
    (numeral.exponent, numeral.afterExponent after)
  ending : SuffixRule numeral.suffix after

theorem text_append (numeral : Numeral) (after : List Char) :
    numeral.text ++ after = numeral.lead ++ (numeral.whole ++ numeral.afterWhole after) := by
  simp only [Numeral.text, body, afterWhole, afterFraction, afterExponent, List.append_assoc]

/-- What is read where each part and what it leaves are known. -/
theorem read_eq {base : Base} {lead whole left fractionLeft exponentLeft : List Char}
    {fraction : Option (List Char)} {exponent : Option Exponent}
    (detected : Base.detect (lead ++ (whole ++ left)) = (base, lead))
    (run : MaximalRun base.isPlace whole left)
    (point : splitFraction base left = (fraction, fractionLeft))
    (power : splitExponent base fractionLeft = (exponent, exponentLeft)) :
    read (lead ++ (whole ++ left)) =
      ⟨base, lead, whole, fraction, exponent, suffixOf exponentLeft⟩ := by
  simp only [read, detected, List.drop_left, run.takeWhile_append, run.dropWhile_append, point,
    power]

/-- A literal is read where its parts stand. -/
theorem StandsBefore.read_eq {numeral : Numeral} {after : List Char}
    (stands : numeral.StandsBefore after) : read (numeral.text ++ after) = numeral := by
  rw [text_append, Numeral.read_eq stands.leads.detect_eq stands.places stands.point stands.power,
    afterExponent, stands.ending.suffixOf_eq]

/-- The parts of the literal that is read stand where it is read. -/
theorem standsBefore_read (text : List Char) :
    ∃ after, (read text).text ++ after = text ∧ (read text).StandsBefore after := by
  obtain ⟨behind, textEq, leads⟩ := leadRule_detect text
  have detected := leads.detect_eq
  generalize (Base.detect text).1 = base at leads detected
  generalize (Base.detect text).2 = lead at textEq leads detected
  obtain ⟨whole, left, placesEq, run⟩ :
      ∃ whole left, whole ++ left = behind ∧ MaximalRun base.isPlace whole left :=
    ⟨_, _, List.takeWhile_append_dropWhile, .of_split base.isPlace behind⟩
  obtain ⟨fraction, fractionLeft, point⟩ :
      ∃ fraction rest, splitFraction base left = (fraction, rest) := ⟨_, _, rfl⟩
  obtain ⟨exponent, exponentLeft, power⟩ :
      ∃ exponent rest, splitExponent base fractionLeft = (exponent, rest) := ⟨_, _, rfl⟩
  obtain ⟨after, suffixEq, ending⟩ := suffixRule_suffixOf exponentLeft
  have fractionEq := fractionText_splitFraction base left
  rw [point] at fractionEq
  have exponentEq := exponentText_splitExponent base fractionLeft
  rw [power] at exponentEq
  rw [← placesEq] at textEq leads detected
  rw [textEq, read_eq detected run point power]
  generalize suffixOf exponentLeft = suffix at suffixEq ending
  -- every text that is left is now put together from what stands in it
  subst suffixEq exponentEq fractionEq
  exact ⟨after, text_append _ after, leads, run, point, power, ending⟩

/-- What is read of a literal meets the rule. -/
theorem numberRule_read (text : List Char) : NumberRule text (read text).text := by
  obtain ⟨after, whole, stands⟩ := standsBefore_read text
  have point := fractionRule_split (read text).base ((read text).afterWhole after)
  have power := exponentRule_split (read text).base ((read text).afterFraction after)
  rw [stands.point] at point
  rw [stands.power] at power
  have rule := NumberRule.intro stands.leads stands.places point power stands.ending
  have spelled : (read text).text = (read text).lead ++ ((read text).whole ++
      (fractionText (read text).fraction ++
        (exponentText (read text).exponent ++ (read text).suffix))) := by
    simp only [Numeral.text, body, List.append_assoc]
  have parts := (text_append (read text) after).symm.trans whole
  rw [← spelled] at rule
  exact parts.subst (motive := fun given => NumberRule given (read text).text) rule

end Numeral

/-- The rule of number literals leaves no choice. -/
theorem NumberRule.eq_read {text value : List Char} (rule : NumberRule text value) :
    value = (Numeral.read text).text := by
  cases rule with
  | intro leads places point power ending =>
      obtain ⟨fractionEq, afterFraction⟩ := point.split_eq
      obtain ⟨exponentEq, afterExponent⟩ := power.split_eq
      simp only [Numeral.read, Numeral.text, Numeral.body, leads.detect_eq, List.drop_left,
        places.takeWhile_append, places.dropWhile_append, fractionEq, afterFraction, exponentEq,
        afterExponent, ending.suffixOf_eq, List.append_assoc]

end Lexing.Lexeme
