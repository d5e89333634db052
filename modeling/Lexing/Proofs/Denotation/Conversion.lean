import Lexing.Number
import Mathlib.Algebra.Order.Field.Power
import Mathlib.Data.Rat.Cast.Order
import Mathlib.Tactic.Linarith

/-! # Integers that numbers denote

A number denotes a rational. Moving a trailing zero into the exponent does not change it, and where no
trailing zero is left the value is an integer exactly if the exponent is not negative. What a number
converts to therefore depends on its value alone: the integer where it is one of the range, and
otherwise the reason why there is none. -/

namespace Lexing.Number

/-- The rational that a number denotes. -/
def value (number : Number) : ℚ := number.val * 10 ^ number.exp

/-- A rational without a fraction. -/
def IsInteger (value : ℚ) : Prop := ∃ n : ℤ, value = n

theorem value_eq_zero_iff {number : Number} : number.value = 0 ↔ number.val = 0 := by
  have positive : (10 : ℚ) ^ number.exp ≠ 0 := zpow_ne_zero _ (by norm_num)
  rw [value, mul_eq_zero, or_iff_left positive, Int.cast_eq_zero]

/-- Where the exponent is not negative the value is an integer times a natural power of ten. -/
theorem value_of_exp_nonneg {number : Number} (nonneg : 0 ≤ number.exp) :
    number.value = (number.val * 10 ^ number.exp.toNat : ℤ) := by
  obtain ⟨power, spelled⟩ := Int.eq_ofNat_of_zero_le nonneg
  rw [value, spelled, Int.toNat_natCast, zpow_natCast]
  push_cast
  rfl

/-! ## Trailing zeros -/

/-- One trailing zero moves into the exponent, and the value stays. -/
theorem value_div_ten {number : Number} (zero : number.val % 10 = 0) :
    value ⟨number.val / 10, number.exp + 1⟩ = number.value := by
  have whole : number.val = number.val / 10 * 10 := by omega
  have cast : (number.val : ℚ) = (number.val / 10 : ℤ) * 10 := by exact_mod_cast whole
  calc value ⟨number.val / 10, number.exp + 1⟩
      = (number.val / 10 : ℤ) * (10 ^ number.exp * 10) := by
        rw [value, zpow_add_one₀ (by norm_num)]
    _ = number.value := by rw [value, cast, mul_assoc, mul_comm (10 : ℚ)]

theorem value_normalized (number : Number) : number.normalized.value = number.value := by
  fun_induction normalized number with
  | case1 number more ih => exact ih.trans (value_div_ten more.2)
  | case2 number done => rfl

/-- A number whose integer has no trailing zero to move. -/
def IsShortest (number : Number) : Prop := number.val = 0 ∨ ¬ 10 ∣ number.val

theorem isShortest_normalized (number : Number) : number.normalized.IsShortest := by
  fun_induction normalized number with
  | case1 number more ih => exact ih
  | case2 number done =>
      rcases eq_or_ne number.val 0 with zero | nonzero
      · exact Or.inl zero
      · exact Or.inr fun divides => done ⟨nonzero, Int.emod_eq_zero_of_dvd divides⟩

/-- A negative exponent leaves a fraction of an integer without trailing zeros. -/
theorem IsShortest.isInteger_iff {number : Number} (shortest : number.IsShortest) :
    IsInteger number.value ↔ number.val = 0 ∨ 0 ≤ number.exp := by
  constructor
  · rintro ⟨n, whole⟩
    rcases shortest with zero | noZero
    · exact Or.inl zero
    · refine Or.inr (Int.not_lt.mp fun negative => noZero ?_)
      -- the integer would be its value times a power of ten
      obtain ⟨power, spelled⟩ : ∃ power : ℕ, number.exp = -(power + 1 : ℕ) :=
        ⟨(-number.exp - 1).toNat, by omega⟩
      have nonzero : (10 : ℚ) ^ (power + 1) ≠ 0 := pow_ne_zero _ (by norm_num)
      rw [value, spelled, zpow_neg, zpow_natCast, mul_inv_eq_iff_eq_mul₀ nonzero] at whole
      have product : number.val = n * 10 ^ (power + 1) := by exact_mod_cast whole
      rw [product, pow_succ]
      exact Dvd.intro_left _ (mul_assoc _ _ _)
  · rintro (zero | nonneg)
    · exact ⟨0, by rw [value_eq_zero_iff.mpr zero, Int.cast_zero]⟩
    · exact ⟨_, value_of_exp_nonneg nonneg⟩

theorem isInteger_value_iff {number : Number} : IsInteger number.value ↔
    number.normalized.val = 0 ∨ 0 ≤ number.normalized.exp := by
  rw [← value_normalized]
  exact number.isShortest_normalized.isInteger_iff

/-- The test for integers decides whether the value is one. -/
theorem isInt_iff {number : Number} : number.isInt = true ↔ IsInteger number.value := by
  rw [isInteger_value_iff, isInt, Bool.or_eq_true, beq_iff_eq, decide_eq_true_eq]

/-! ## Conversion -/

/-- What looking for the integer of a rational comes to. An integer may be refused for its size, which
then is more than the largest power of ten that is not refused. -/
inductive Yields (value : ℚ) : Except ConversionError ℤ → Prop where
  | integer {n : ℤ} (whole : value = n) : Yields value (.ok n)
  | fraction (broken : ¬ IsInteger value) : Yields value (.error .notInt)
  | huge {n : ℤ} (whole : value = n) (far : 10 ^ largestExponent < |n|) :
      Yields value (.error .outOfRange)

/-- An integer that is not zero is too large if its power of ten is. -/
theorem Yields.of_large {number : Number} (nonzero : number.val ≠ 0) (nonneg : 0 ≤ number.exp)
    (large : largestExponent < number.exp.toNat) : Yields number.value (.error .outOfRange) := by
  refine .huge (value_of_exp_nonneg nonneg) ?_
  have one : 1 ≤ |number.val| := Int.one_le_abs nonzero
  calc (10 : ℤ) ^ largestExponent < 10 ^ number.exp.toNat :=
        pow_lt_pow_right₀ (by norm_num) large
    _ ≤ |number.val| * 10 ^ number.exp.toNat := le_mul_of_one_le_left (by positivity) one
    _ = |number.val * 10 ^ number.exp.toNat| := by
        rw [abs_mul, abs_of_pos (pow_pos (by norm_num : (0 : ℤ) < 10) _)]

/-- A power that is no word is larger than the largest one that is not refused. -/
theorem powerWord?_cases {exp : ℤ} (nonneg : 0 ≤ exp) :
    powerWord? exp = .ok exp.toNat ∨
      powerWord? exp = .error .outOfRange ∧ largestExponent < exp.toNat := by
  rw [powerWord?]
  split
  · exact Or.inl rfl
  · refine Or.inr ⟨rfl, ?_⟩
    rw [largestExponent]
    omega

theorem yields_toInt? (number : Number) : Yields number.value number.toInt? := by
  have isInteger := @isInteger_value_iff number
  have same := number.value_normalized
  unfold toInt?
  dsimp only
  generalize number.normalized = shortest at isInteger same
  rw [← same] at isInteger ⊢
  split
  · rename_i zero
    exact .integer (by rw [value_eq_zero_iff.mpr zero, Int.cast_zero])
  · rename_i nonzero
    split
    · rename_i negative
      refine .fraction fun whole => ?_
      rcases isInteger.mp whole with zero | nonneg
      · exact nonzero zero
      · omega
    · rename_i nonneg
      have nonneg := Int.not_lt.mp nonneg
      rcases powerWord?_cases nonneg with word | ⟨noWord, large⟩
      · rw [word]
        dsimp only
        split
        · rename_i large
          exact .of_large nonzero nonneg large
        · have power : ((Nat.pow 10 shortest.exp.toNat : ℕ) : ℤ) = 10 ^ shortest.exp.toNat :=
            Nat.cast_pow 10 _
          rw [power]
          exact .integer (value_of_exp_nonneg nonneg)
      · rw [noWord]
        exact .of_large nonzero nonneg large

namespace IntegerRange

/-- The integer types that numbers convert to. -/
def supported : List IntegerRange := [int32, int64, uint32, uint64]

/-- An integer is a value of a type. -/
def Holds (range : IntegerRange) (n : ℤ) : Prop := range.least ≤ n ∧ n ≤ range.greatest

instance (range : IntegerRange) (n : ℤ) : Decidable (range.Holds n) :=
  inferInstanceAs (Decidable (_ ∧ _))

theorem bounds_of_supported : ∀ range ∈ supported,
    -10 ^ largestExponent ≤ range.least ∧ range.greatest ≤ 10 ^ largestExponent := by
  decide

/-- No supported type holds an integer that is refused for its size. -/
theorem abs_le_of_holds {range : IntegerRange} (supports : range ∈ supported) {n : ℤ}
    (holds : range.Holds n) : |n| ≤ 10 ^ largestExponent := by
  obtain ⟨least, greatest⟩ := bounds_of_supported range supports
  exact abs_le.mpr ⟨least.trans holds.1, holds.2.trans greatest⟩

end IntegerRange

/-- What converting a rational to a type comes to. -/
inductive Converts (range : IntegerRange) (value : ℚ) : Except ConversionError ℤ → Prop where
  | integer {n : ℤ} (whole : value = n) (inside : range.Holds n) : Converts range value (.ok n)
  | fraction (broken : ¬ IsInteger value) : Converts range value (.error .notInt)
  | outside {n : ℤ} (whole : value = n) (outside : ¬ range.Holds n) :
      Converts range value (.error .outOfRange)

/-- A rational converts in one way. -/
theorem Converts.unique {range : IntegerRange} {value : ℚ}
    {first second : Except ConversionError ℤ} (converts : Converts range value first)
    (convertsToo : Converts range value second) : first = second := by
  cases converts with
  | integer whole inside =>
      cases convertsToo with
      | integer wholeToo =>
          rw [Int.cast_inj.mp (whole.symm.trans wholeToo)]
      | fraction broken => exact absurd ⟨_, whole⟩ broken
      | outside wholeToo outside =>
          rw [Int.cast_inj.mp (whole.symm.trans wholeToo)] at inside
          exact absurd inside outside
  | fraction broken =>
      cases convertsToo with
      | integer whole => exact absurd ⟨_, whole⟩ broken
      | fraction => rfl
      | outside whole => exact absurd ⟨_, whole⟩ broken
  | outside whole outside =>
      cases convertsToo with
      | integer wholeToo inside =>
          rw [Int.cast_inj.mp (wholeToo.symm.trans whole)] at inside
          exact absurd inside outside
      | fraction broken => exact absurd ⟨_, whole⟩ broken
      | outside => rfl

variable {range : IntegerRange}

theorem converts_convert (supports : range ∈ IntegerRange.supported) (number : Number) :
    Converts range number.value (number.convert range) := by
  have yields := number.yields_toInt?
  unfold convert
  generalize number.toInt? = found at yields
  cases yields with
  | @integer n whole =>
      dsimp only
      split
      · rename_i inside
        exact .integer whole inside
      · rename_i outside
        exact .outside whole outside
  | fraction broken => exact .fraction broken
  | huge whole far =>
      exact .outside whole fun holds => absurd (IntegerRange.abs_le_of_holds supports holds) (not_le.mpr far)

/-- A number converts as its value does. -/
theorem convert_eq_iff (supports : range ∈ IntegerRange.supported) {number : Number}
    {outcome : Except ConversionError ℤ} :
    number.convert range = outcome ↔ Converts range number.value outcome := by
  constructor
  · rintro rfl
    exact converts_convert supports number
  · exact (converts_convert supports number).unique

/-- Converting to a supported type is exact: it gives the integer that a number denotes if the type has
it, and otherwise says whether there is no such integer or the type does not have it. Numbers of one
value convert alike, and zero converts whatever its exponent is. -/
theorem convert_exact (supports : range ∈ IntegerRange.supported) (number : Number) :
    (∀ n, number.convert range = .ok n ↔ number.value = n ∧ range.Holds n) ∧
    (number.convert range = .error .notInt ↔ ¬ IsInteger number.value) ∧
    (number.convert range = .error .outOfRange ↔
      ∃ n : ℤ, number.value = n ∧ ¬ range.Holds n) ∧
    (number.isInt = true ↔ IsInteger number.value) ∧
    (∀ other : Number, other.value = number.value →
      other.convert range = number.convert range) ∧
    (number.val = 0 → number.convert range = .ok 0) := by
  refine ⟨fun n => ?integer, ?fraction, ?outside, isInt_iff, fun other same => ?alike,
    fun zero => ?zero⟩
  case integer =>
    rw [convert_eq_iff supports]
    constructor
    · intro converts
      cases converts with
      | integer whole inside => exact ⟨whole, inside⟩
    · rintro ⟨whole, inside⟩
      exact .integer whole inside
  case fraction =>
    rw [convert_eq_iff supports]
    constructor
    · intro converts
      cases converts with
      | fraction broken => exact broken
    · exact .fraction
  case outside =>
    rw [convert_eq_iff supports]
    constructor
    · intro converts
      cases converts with
      | outside whole outside => exact ⟨_, whole, outside⟩
    · rintro ⟨n, whole, outside⟩
      exact .outside whole outside
  case alike =>
    rw [convert_eq_iff supports, same]
    exact converts_convert supports number
  case zero =>
    rw [convert_eq_iff supports]
    have inside : range.Holds 0 := by
      revert range
      decide
    exact .integer (by rw [value_eq_zero_iff.mpr zero, Int.cast_zero]) inside

/-- The least integer of a type with a zero moved behind the point, a power of ten just above every
type, and zero with an exponent that no type of the exponent has. -/
theorem convert_exact_edges :
    IntegerRange.int32 ∈ IntegerRange.supported ∧ IntegerRange.uint64 ∈ IntegerRange.supported ∧
      (Number.mk (-21474836480) (-1)).convert .int32 = .ok (-2147483648) ∧
      (Number.mk (-2147483648) 0).convert .int32 =
        (Number.mk (-21474836480) (-1)).convert .int32 ∧
      (Number.mk 1 39).convert .uint64 = .error .outOfRange ∧
      (Number.mk 0 5000000000).convert .uint64 = .ok 0 := by
  have value : (Number.mk (-21474836480) (-1)).value = (-2147483648 : ℤ) := by
    norm_num [Number.value]
  obtain ⟨integer, -, -, -, alike, -⟩ :=
    @convert_exact .int32 (by decide) ⟨-21474836480, -1⟩
  obtain ⟨-, -, outside, -, -, -⟩ := @convert_exact .uint64 (by decide) ⟨1, 39⟩
  obtain ⟨-, -, -, -, -, zero⟩ := @convert_exact .uint64 (by decide) ⟨0, 5000000000⟩
  refine ⟨by decide, by decide, (integer _).mpr ⟨value, by decide⟩, alike _ ?_,
    outside.mpr ⟨10 ^ 39, ?_, by decide⟩, zero rfl⟩
  · rw [value]
    norm_num [Number.value]
  · norm_num [Number.value]

end Lexing.Number
