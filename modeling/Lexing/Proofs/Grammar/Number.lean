import Lexing.Proofs.Context.Number

/-! # The grammar of number literals

`NumberGrammar` says which texts are number literals without reference to how they are read. A
literal that is read has no fault exactly if its text is one of them. -/

namespace Lexing.Lexeme

open Text (MaximalRun Replaces)

/-- The digits of a base. -/
def Base.HasDigit : Base → Char → Prop
  | .binary, c => c = '0' ∨ c = '1'
  | .octal, c => '0' ≤ c ∧ c ≤ '7'
  | .decimal, c => '0' ≤ c ∧ c ≤ '9'
  | .hexadecimal, c => '0' ≤ c ∧ c ≤ '9' ∨ 'a' ≤ c ∧ c ≤ 'f' ∨ 'A' ≤ c ∧ c ≤ 'F'

/-- Any number of digits of a base and underscores. -/
def Base.Places (base : Base) (text : List Char) : Prop :=
  ∀ c ∈ text, base.HasDigit c ∨ c = '_'

/-- At most one point, and places behind it. -/
inductive FractionGrammar : List Char → Prop where
  | absent : FractionGrammar []
  | point {places : List Char} (each : Base.decimal.Places places) :
      FractionGrammar ('.' :: places)

/-- At most one letter, at most one sign behind it, and places of which one is a digit. -/
inductive ExponentGrammar : List Char → Prop where
  | absent : ExponentGrammar []
  | marked {mark : Char} {sign places : List Char} (letter : mark = 'e' ∨ mark = 'E')
      (signed : sign = [] ∨ sign = ['-'] ∨ sign = ['+']) (each : Base.decimal.Places places)
      (digit : ∃ c ∈ places, Base.decimal.HasDigit c) :
      ExponentGrammar (mark :: (sign ++ places))

/-- The texts of number literals. A decimal literal does not begin with a zero and another digit. -/
inductive NumberGrammar : List Char → Prop where
  | hexadecimal {places : List Char} (each : Base.hexadecimal.Places places) :
      NumberGrammar ('0' :: 'x' :: places)
  | binary {places : List Char} (each : Base.binary.Places places) :
      NumberGrammar ('0' :: 'b' :: places)
  | octal {places : List Char} (each : Base.octal.Places places) :
      NumberGrammar ('0' :: 'o' :: places)
  | leadingZero {first : Char} {places : List Char} (digit : Base.octal.HasDigit first)
      (each : Base.octal.Places places) : NumberGrammar ('0' :: first :: places)
  | decimal {first : Char} {places fraction exponent : List Char}
      (digit : Base.decimal.HasDigit first) (each : Base.decimal.Places places)
      (plain : first = '0' → ∀ c, places.head? = some c → ¬ Base.decimal.HasDigit c)
      (point : FractionGrammar fraction) (power : ExponentGrammar exponent) :
      NumberGrammar (first :: (places ++ (fraction ++ exponent)))

/-! ## Digits -/

namespace Base

theorem hasDigit_decimal_iff {c : Char} : Base.decimal.HasDigit c ↔ c.isDigit = true := by
  simp [HasDigit, Char.isDigit, Char.le_def]

theorem le_and_le_iff_toNat (least c greatest : Char) :
    (least ≤ c ∧ c ≤ greatest) ↔ (least.toNat ≤ c.toNat ∧ c.toNat ≤ greatest.toNat) := by
  simp only [Char.le_def, UInt32.le_iff_toNat_le, Char.toNat_val]

/-- Digits by their code points. -/
theorem isSome_digit?_iff_toNat {base : Base} {c : Char} :
    (base.digit? c).isSome = true ↔
      48 ≤ c.toNat ∧ c.toNat ≤ 57 ∧ c.toNat - 48 < base.radix ∨
      97 ≤ c.toNat ∧ c.toNat ≤ 102 ∧ c.toNat - 97 + 10 < base.radix ∨
      65 ≤ c.toNat ∧ c.toNat ≤ 70 ∧ c.toNat - 65 + 10 < base.radix := by
  simp only [digit?, digitValue?, le_and_le_iff_toNat, Char.reduceToNat]
  split
  · rw [Option.filter_some, Option.isSome_ite, decide_eq_true_eq]
    omega
  · split
    · rw [Option.filter_some, Option.isSome_ite, decide_eq_true_eq]
      omega
    · split
      · rw [Option.filter_some, Option.isSome_ite, decide_eq_true_eq]
        omega
      · rw [Option.filter_none]
        simp only [Option.isSome_none, Bool.false_eq_true, false_iff]
        omega

/-- A character has a value in a base exactly if it is a digit of the base. -/
theorem isSome_digit?_iff {base : Base} {c : Char} :
    (base.digit? c).isSome = true ↔ base.HasDigit c := by
  rw [isSome_digit?_iff_toNat]
  cases base with
  | binary =>
      simp only [HasDigit, radix, ← Char.toNat_inj, Char.reduceToNat]
      omega
  | octal =>
      simp only [HasDigit, radix, le_and_le_iff_toNat, Char.reduceToNat]
      omega
  | decimal =>
      simp only [HasDigit, radix, le_and_le_iff_toNat, Char.reduceToNat]
      omega
  | hexadecimal =>
      simp only [HasDigit, radix, le_and_le_iff_toNat, Char.reduceToNat]
      omega

/-- What may stand among the digits of a literal is a place unless it is a decimal digit that the
base does not have. -/
theorem hasDigit_or_iff {base : Base} {c : Char} :
    (base.HasDigit c ∨ c = '_') ↔
      base.isPlace c = true ∧ (c.isDigit = true → (base.digit? c).isSome = true) := by
  simp only [← isSome_digit?_iff, isPlace, Bool.or_eq_true, beq_iff_eq]
  constructor
  · rintro (digit | rfl)
    · exact ⟨Or.inl (Or.inr digit), fun _ => digit⟩
    · exact ⟨Or.inl (Or.inl rfl), fun impossible => by cases impossible⟩
  · rintro ⟨(underscore | digit) | other, known⟩
    · exact Or.inr underscore
    · exact Or.inl digit
    · exact Or.inl (known other)

end Base

/-- In base ten every place is a digit or an underscore. -/
theorem Base.places_decimal {places : List Char}
    (inside : ∀ c ∈ places, Base.decimal.isPlace c = true) : Base.decimal.Places places :=
  fun c member => Base.hasDigit_or_iff.mpr ⟨inside c member, fun digit =>
    Base.isSome_digit?_iff.mpr (Base.hasDigit_decimal_iff.mpr digit)⟩

theorem SignRule.sign_cases {sign after : List Char} (rule : SignRule sign after) :
    sign = [] ∨ sign = ['-'] ∨ sign = ['+'] := by
  cases rule with
  | minus => exact Or.inr (Or.inl rfl)
  | plus => exact Or.inr (Or.inr rfl)
  | absent other => exact Or.inl rfl

theorem Numeral.foreignDigits_eq_nil_iff (base : Base) (offset : Nat) (places : List Char) :
    foreignDigits base offset [] places = [] ↔
      ∀ c ∈ places, c.isDigit = true → (base.digit? c).isSome = true := by
  induction places generalizing offset with
  | nil => simp [foreignDigits]
  | cons c rest ih =>
      rw [foreignDigits, foreignDigits_append, List.append_eq_nil_iff, ih, List.forall_mem_cons]
      refine and_congr_left fun _ => ?_
      by_cases digit : c.isDigit = true <;> cases base.digit? c <;> simp [digit]

/-- Places that a base takes are all of the base exactly if no digit among them is foreign. -/
theorem Numeral.places_iff {base : Base} {offset : Nat} {places : List Char}
    (inside : ∀ c ∈ places, base.isPlace c = true) :
    foreignDigits base offset [] places = [] ↔ base.Places places := by
  rw [foreignDigits_eq_nil_iff]
  refine forall₂_congr fun c member => ?_
  rw [Base.hasDigit_or_iff, and_iff_right (inside c member)]

/-! ## What is read -/

namespace Numeral

theorem endFindings_eq_nil_iff (numeral : Numeral) :
    numeral.endFindings = [] ↔ numeral.suffix = [] ∧
      ∀ exponent, numeral.exponent = some exponent → exponent.hasDigits = true := by
  obtain ⟨base, lead, whole, fraction, exponent, suffix⟩ := numeral
  unfold endFindings
  cases suffix with
  | cons first rest => simp
  | nil =>
      cases exponent with
      | none => simp
      | some exponent => simp

/-- Only a decimal literal has a fraction. -/
theorem StandsBefore.fraction_eq_none {numeral : Numeral} {after : List Char}
    (stands : numeral.StandsBefore after) (other : numeral.base ≠ .decimal) :
    numeral.fraction = none := by
  have point := stands.point
  unfold splitFraction at point
  split at point
  · rw [if_neg other] at point
    exact (congrArg Prod.fst point).symm
  · exact (congrArg Prod.fst point).symm

/-- Only a decimal literal has an exponent. -/
theorem StandsBefore.exponent_eq_none {numeral : Numeral} {after : List Char}
    (stands : numeral.StandsBefore after) (other : numeral.base ≠ .decimal) :
    numeral.exponent = none := by
  have power := stands.power
  rw [splitExponent_absent fun _ _ mark => other mark.1] at power
  exact (congrArg Prod.fst power).symm

theorem StandsBefore.fractionGrammar {numeral : Numeral} {after : List Char}
    (stands : numeral.StandsBefore after) : FractionGrammar (fractionText numeral.fraction) := by
  have rule := fractionRule_split numeral.base (numeral.afterWhole after)
  rw [stands.point] at rule
  dsimp only at rule
  generalize fractionText numeral.fraction = fraction at rule
  cases rule with
  | point ten run =>
      rw [ten] at run
      exact .point (Base.places_decimal run.inside)
  | absent other => exact .absent

theorem StandsBefore.exponentGrammar {numeral : Numeral} {after : List Char}
    (stands : numeral.StandsBefore after)
    (digits : ∀ exponent, numeral.exponent = some exponent → exponent.hasDigits = true) :
    ExponentGrammar (exponentText numeral.exponent) := by
  have power := stands.power
  cases opened : numeral.exponent with
  | none => exact .absent
  | some exponent =>
      rw [opened] at power
      obtain ⟨ten, letter, run, behind, signed⟩ := splitExponent_eq_some power
      obtain ⟨c, member, digit⟩ := List.any_eq_true.mp (digits exponent opened)
      have rule := signRule_split behind
      rw [signed] at rule
      exact .marked letter rule.sign_cases (Base.places_decimal run.inside)
        ⟨c, member, Base.isSome_digit?_iff.mp digit⟩

/-- Outside base ten a literal without a suffix is what gives its base and places. -/
theorem StandsBefore.text_of_ne {numeral : Numeral} {after : List Char}
    (stands : numeral.StandsBefore after) (suffix : numeral.suffix = [])
    (other : numeral.base ≠ .decimal) : numeral.text = numeral.lead ++ numeral.whole := by
  simp [Numeral.text, body, suffix, stands.fraction_eq_none other, stands.exponent_eq_none other,
    fractionText, exponentText]

/-- A digit behind what gives the base is one of the places. -/
theorem StandsBefore.exists_place {numeral : Numeral} {after rest : List Char} {first : Char}
    (stands : numeral.StandsBefore after) (digit : first.isDigit = true)
    (behind : numeral.whole ++ numeral.afterWhole after = first :: rest) :
    ∃ others, numeral.whole = first :: others ∧ others ++ numeral.afterWhole after = rest := by
  cases whole : numeral.whole with
  | nil =>
      rw [whole, List.nil_append] at behind
      have outside := stands.places.stops first (List.head?_eq_some_iff.mpr ⟨rest, behind⟩)
      rw [Base.isPlace_of_isDigit _ digit] at outside
      cases outside
  | cons opening others =>
      rw [whole] at behind
      cases behind
      exact ⟨others, rfl, rfl⟩

/-- In base ten a literal without a suffix is places, a fraction and an exponent. -/
theorem StandsBefore.decimalGrammar {numeral : Numeral} {after rest : List Char} {first : Char}
    (stands : numeral.StandsBefore after) (suffix : numeral.suffix = [])
    (digits : ∀ exponent, numeral.exponent = some exponent → exponent.hasDigits = true)
    (digit : first.isDigit = true) (opens : numeral.text = first :: rest)
    (lead : numeral.lead = [])
    (plain : ∀ next rest, numeral.whole ++ numeral.afterWhole after = '0' :: next :: rest →
      next.isDigit = false)
    (places : Base.decimal.Places numeral.whole) : NumberGrammar numeral.text := by
  have parts := numeral.text_append after
  rw [lead, List.nil_append, opens, List.cons_append] at parts
  obtain ⟨others, whole, _⟩ := stands.exists_place digit parts.symm
  have spelled : numeral.text = first ::
      (others ++ (fractionText numeral.fraction ++ exponentText numeral.exponent)) := by
    simp [Numeral.text, body, suffix, lead, whole]
  rw [whole] at places plain
  rw [spelled]
  refine .decimal (Base.hasDigit_decimal_iff.mpr digit) (List.forall_mem_cons.mp places).2 ?_
    stands.fractionGrammar (stands.exponentGrammar digits)
  intro zero c head
  obtain ⟨more, rfl⟩ := List.head?_eq_some_iff.mp head
  rw [Base.hasDigit_decimal_iff, plain c (more ++ numeral.afterWhole after) (by rw [zero]; rfl)]
  exact Bool.false_ne_true

/-- A literal without faults is one of the grammar. -/
theorem StandsBefore.numberGrammar {numeral : Numeral} {after : List Char}
    (stands : numeral.StandsBefore after) (silent : numeral.findings = [])
    {first : Char} {rest : List Char} (opens : numeral.text = first :: rest)
    (digit : first.isDigit = true) : NumberGrammar numeral.text := by
  obtain ⟨foreign, ending⟩ := List.append_eq_nil_iff.mp silent
  obtain ⟨suffix, digits⟩ := numeral.endFindings_eq_nil_iff.mp ending
  have places := (places_iff stands.places.inside).mp foreign
  have based := stands.text_of_ne suffix
  have ten := stands.decimalGrammar suffix digits digit opens
  have leads := stands.leads
  generalize numeral.base = base at places based leads
  generalize numeral.lead = lead at based ten leads
  generalize behind : numeral.whole ++ numeral.afterWhole after = left at ten leads
  cases leads with
  | hexadecimal =>
      rw [based (by decide)]
      exact .hexadecimal places
  | binary =>
      rw [based (by decide)]
      exact .binary places
  | octal =>
      rw [based (by decide)]
      exact .octal places
  | @zero next rest digit =>
      obtain ⟨others, whole, _⟩ := stands.exists_place digit behind
      rw [whole] at places
      obtain ⟨head, tail⟩ := List.forall_mem_cons.mp places
      have octal : Base.octal.HasDigit next := by
        refine head.resolve_right fun underscore => ?_
        rw [underscore] at digit
        cases digit
      rw [based (by decide), whole]
      exact .leadingZero octal tail
  | decimal plain => exact ten rfl (fun next rest same => (plain next rest same).2.2.2) places

end Numeral

/-! ## What is written -/

theorem Base.Places.isPlace {base : Base} {places : List Char} (each : base.Places places) :
    ∀ c ∈ places, base.isPlace c = true :=
  fun c member => (Base.hasDigit_or_iff.mp (each c member)).1

/-- What may follow the digits of a decimal literal without a fault. -/
theorem Base.Places.maximalRun {places after : List Char} (each : Base.decimal.Places places)
    (stops : ∀ c, after.head? = some c → c = '.' ∨ c = 'e' ∨ c = 'E') :
    MaximalRun Base.decimal.isPlace places after := by
  refine ⟨each.isPlace, fun c head => ?_⟩
  rcases stops c head with rfl | rfl | rfl <;> decide

/-- A sign before places is read for what it is, and none where there is none. -/
theorem Base.Places.exists_sign {sign places : List Char} (each : Base.decimal.Places places)
    (signed : sign = [] ∨ sign = ['-'] ∨ sign = ['+']) :
    ∃ read, read.toList = sign ∧ Numeral.splitSign (sign ++ places) = (read, places) := by
  rcases signed with rfl | rfl | rfl
  · refine ⟨none, rfl, ?_⟩
    rw [List.nil_append]
    unfold Numeral.splitSign
    split
    · exact absurd (each.isPlace '-' List.mem_cons_self) (by decide)
    · exact absurd (each.isPlace '+' List.mem_cons_self) (by decide)
    · rfl
  · exact ⟨some '-', rfl, rfl⟩
  · exact ⟨some '+', rfl, rfl⟩

theorem ExponentGrammar.head {exponent : List Char} (grammar : ExponentGrammar exponent) :
    ∀ c, exponent.head? = some c → c = 'e' ∨ c = 'E' := by
  intro c head
  cases grammar with
  | absent => cases head
  | marked letter signed each digit =>
      cases head
      exact letter

theorem FractionGrammar.head {fraction exponent : List Char} (point : FractionGrammar fraction)
    (power : ExponentGrammar exponent) :
    ∀ c, (fraction ++ exponent).head? = some c → c = '.' ∨ c = 'e' ∨ c = 'E' := by
  intro c head
  cases point with
  | absent => exact Or.inr (power.head c head)
  | point each =>
      cases head
      exact Or.inl rfl

/-- A fraction of the grammar is read for what it is. -/
theorem FractionGrammar.exists_fraction {fraction exponent : List Char}
    (point : FractionGrammar fraction) (power : ExponentGrammar exponent) :
    ∃ read, Numeral.fractionText read = fraction ∧
      Numeral.splitFraction .decimal (fraction ++ exponent) = (read, exponent) := by
  cases point with
  | absent =>
      refine ⟨none, rfl, ?_⟩
      rw [List.nil_append]
      unfold Numeral.splitFraction
      split
      · have impossible := power.head '.' rfl
        simp at impossible
      · rfl
  | @point places each =>
      have run := each.maximalRun fun c head => Or.inr (power.head c head)
      refine ⟨some places, rfl, ?_⟩
      rw [List.cons_append, Numeral.splitFraction, if_pos rfl, run.takeWhile_append,
        run.dropWhile_append]

/-- An exponent of the grammar is read for what it is, and has a digit. -/
theorem ExponentGrammar.exists_exponent {exponent : List Char}
    (grammar : ExponentGrammar exponent) :
    ∃ read, Numeral.exponentText read = exponent ∧
      Numeral.splitExponent .decimal exponent = (read, []) ∧
      ∀ opened, read = some opened → opened.hasDigits = true := by
  cases grammar with
  | absent => exact ⟨none, rfl, rfl, fun _ impossible => by cases impossible⟩
  | @marked mark sign places letter signed each digit =>
      obtain ⟨read, spelled, split⟩ := each.exists_sign signed
      have run : MaximalRun Base.decimal.isPlace places [] := .of_all each.isPlace
      rw [← List.append_nil places] at split
      refine ⟨some ⟨mark, read, places⟩, ?_, ?_, fun opened same => ?_⟩
      · rw [Numeral.exponentText, Exponent.text, spelled]
      · have whole := Numeral.splitExponent_marked rfl letter split run
        rw [List.append_nil] at whole
        exact whole
      · cases same
        obtain ⟨c, member, isDigit⟩ := digit
        exact List.any_eq_true.mpr ⟨c, member, Base.isSome_digit?_iff.mpr isDigit⟩

/-- A literal that the grammar allows outside base ten. -/
theorem Numeral.exists_based {base : Base} {lead places : List Char}
    (leads : LeadRule base lead places) (each : base.Places places) :
    ∃ numeral : Numeral, numeral.text = lead ++ places ∧ numeral.StandsBefore [] ∧
      numeral.findings = [] := by
  have empty : (⟨base, lead, places, none, none, []⟩ : Numeral).afterWhole [] = [] := rfl
  refine ⟨⟨base, lead, places, none, none, []⟩, ?_, ?_, ?_⟩
  · simp [Numeral.text, body, fractionText, exponentText]
  · constructor
    case leads =>
      rw [empty, List.append_nil]
      exact leads
    case places => exact .of_all each.isPlace
    case point => rfl
    case power => rfl
    case ending => exact .absent fun _ impossible => by cases impossible
  · rw [findings, List.append_eq_nil_iff, endFindings_eq_nil_iff]
    exact ⟨(places_iff each.isPlace).mpr each, rfl, by simp⟩

/-- A literal that the grammar allows in base ten. -/
theorem Numeral.exists_decimal {first : Char} {places fraction exponent : List Char}
    (digit : Base.decimal.HasDigit first) (each : Base.decimal.Places places)
    (plain : first = '0' → ∀ c, places.head? = some c → ¬ Base.decimal.HasDigit c)
    (point : FractionGrammar fraction) (power : ExponentGrammar exponent) :
    ∃ numeral : Numeral, numeral.text = first :: (places ++ (fraction ++ exponent)) ∧
      numeral.StandsBefore [] ∧ numeral.findings = [] := by
  obtain ⟨readFraction, rfl, split⟩ := point.exists_fraction power
  obtain ⟨readExponent, rfl, splitToo, digits⟩ := power.exists_exponent
  have all : Base.decimal.Places (first :: places) :=
    List.forall_mem_cons.mpr ⟨Or.inl digit, each⟩
  have head := point.head power
  refine ⟨⟨.decimal, [], first :: places, readFraction, readExponent, []⟩, ?_, ?_, ?_⟩
  · simp [Numeral.text, body]
  · constructor
    case leads =>
      simp only [afterWhole, afterFraction, afterExponent, List.append_nil]
      refine .decimal fun next rest same => ?_
      obtain ⟨zero, behind⟩ := List.cons.inj same
      cases places with
      | nil =>
          have opens := List.head?_eq_some_iff.mpr ⟨rest, behind⟩
          rcases head next opens with rfl | rfl | rfl <;> decide
      | cons c others =>
          cases behind
          have notDigit := plain zero next rfl
          rcases each next List.mem_cons_self with isDigit | rfl
          · exact absurd isDigit notDigit
          · decide
    case places =>
      simp only [afterWhole, afterFraction, afterExponent, List.append_nil]
      exact all.maximalRun head
    case point =>
      simp only [afterWhole, afterFraction, afterExponent, List.append_nil]
      exact split
    case power =>
      simp only [afterFraction, afterExponent, List.append_nil]
      exact splitToo
    case ending => exact .absent fun _ impossible => by cases impossible
  · rw [findings, List.append_eq_nil_iff, endFindings_eq_nil_iff]
    exact ⟨(places_iff all.isPlace).mpr all, rfl, digits⟩

/-- Every text of the grammar is read as a literal without faults. -/
theorem NumberGrammar.exists_numeral {text : List Char} (grammar : NumberGrammar text) :
    ∃ numeral : Numeral, numeral.text = text ∧ numeral.StandsBefore [] ∧ numeral.findings = [] := by
  cases grammar with
  | hexadecimal each => exact Numeral.exists_based .hexadecimal each
  | binary each => exact Numeral.exists_based .binary each
  | octal each => exact Numeral.exists_based .octal each
  | @leadingZero first places digit each =>
      have decimal : first.isDigit = true :=
        Base.hasDigit_decimal_iff.mp ⟨digit.1, Char.le_trans digit.2 (by decide)⟩
      exact Numeral.exists_based (.zero decimal) (List.forall_mem_cons.mpr ⟨Or.inl digit, each⟩)
  | decimal digit each plain point power =>
      exact Numeral.exists_decimal digit each plain point power

/-- A literal that is read has no fault exactly if its text is one of the grammar. -/
theorem Numeral.findings_eq_nil_iff {first : Char} (digit : first.isDigit = true)
    (rest : List Char) :
    (read (first :: rest)).findings = [] ↔ NumberGrammar (read (first :: rest)).text := by
  obtain ⟨after, whole, stands⟩ := standsBefore_read (first :: rest)
  constructor
  · intro silent
    cases spelled : (read (first :: rest)).text with
    | nil => exact absurd spelled (read_text_ne_nil digit rest)
    | cons opening others =>
        rw [spelled] at whole
        cases whole
        rw [← spelled]
        exact stands.numberGrammar silent spelled digit
  · intro grammar
    obtain ⟨numeral, spelled, standsAlone, silent⟩ := grammar.exists_numeral
    have again := (stands.of_replaces (Replaces.nil after)).read_eq
    rw [← spelled, standsAlone.read_eq] at again
    rw [← again]
    exact silent

end Lexing.Lexeme
