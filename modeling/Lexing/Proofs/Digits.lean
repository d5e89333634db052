import Lexing.Proofs.Grammar.Number
import Mathlib.Data.List.Induction
import Mathlib.Data.Nat.Digits.Defs

/-! # Digits

The figures of all bases stand in one row, each at the place of its value, and a base has those at a
place below its radix. A number is written with its digits in that sense: `value_eq_written` says
that the value of places is the positional one, `value_toDigits` that a number written out in a base
has its own value again. -/

namespace Lexing.Lexeme.Base

/-- The figures of all bases, each at the place of its value. -/
def figures : List Char :=
  ['0', '1', '2', '3', '4', '5', '6', '7', '8', '9', 'a', 'b', 'c', 'd', 'e', 'f']

/-- The digits of a base among some places, in the order written. Letters of both cases count. -/
def digits (base : Base) (places : List Char) : List ℕ :=
  (places.filterMap fun c => figures.idxOf? c.toLower).filter fun value => decide (value < base.radix)

/-- The natural number that the digits of a base among some places write. -/
def written (base : Base) (places : List Char) : ℕ :=
  Nat.ofDigits base.radix (base.digits places).reverse

theorem two_le_radix (base : Base) : 2 ≤ base.radix := by
  cases base <;> decide

/-! ## Figures and values -/

/-- A figure is an ASCII character. -/
theorem toNat_lt_of_mem_figures {c : Char} (figure : c.toLower ∈ figures) : c.toNat < 128 := by
  have small : ∀ c ∈ figures, c.toNat < 128 := by simp [figures]
  have bound := small _ figure
  unfold Char.toLower at bound
  split at bound
  · rename_i upper
    have last : c.val ≤ 'Z'.val := upper.2
    rw [UInt32.le_iff_toNat_le] at last
    exact Nat.lt_of_le_of_lt last (by decide)
  · exact bound

theorem digitValue?_of_ascii : ∀ code < 128,
    digitValue? (Char.ofNat code) = figures.idxOf? (Char.ofNat code).toLower := by
  decide

/-- The value of a figure is its place. -/
theorem digitValue?_eq_idxOf? (c : Char) : digitValue? c = figures.idxOf? c.toLower := by
  by_cases ascii : c.toNat < 128
  · have same := digitValue?_of_ascii c.toNat ascii
    rwa [Char.ofNat_toNat] at same
  · rw [List.idxOf?_eq_none_iff.mpr fun figure => ascii (toNat_lt_of_mem_figures figure)]
    unfold digitValue?
    simp only [le_and_le_iff_toNat, Char.reduceToNat]
    rw [if_neg (by omega), if_neg (by omega), if_neg (by omega)]

theorem filterMap_digit? (base : Base) (places : List Char) :
    places.filterMap base.digit? = base.digits places := by
  have same : base.digit? = fun c =>
      (figures.idxOf? c.toLower).filter fun value => decide (value < base.radix) :=
    funext fun c => congrArg (Option.filter _) (digitValue?_eq_idxOf? c)
  rw [digits, List.filter_filterMap, same]

@[simp] theorem digits_append (base : Base) (left right : List Char) :
    base.digits (left ++ right) = base.digits left ++ base.digits right := by
  simp only [← filterMap_digit?, List.filterMap_append]

/-! ## Values of places -/

/-- Reading digits from the left gives the number that they write. -/
theorem foldl_eq_ofDigits (radix : ℕ) (digits : List ℕ) :
    digits.foldl (fun total digit => total * radix + digit) 0 = Nat.ofDigits radix digits.reverse := by
  induction digits using List.reverseRecOn with
  | nil => rfl
  | append_singleton digits last ih =>
      rw [List.foldl_append, ih, List.foldl_cons, List.foldl_nil, List.reverse_append,
        List.reverse_singleton, List.singleton_append, Nat.ofDigits_cons, Nat.mul_comm, Nat.add_comm]

/-- The value of places is the number that their digits write. -/
theorem value_eq_written (base : Base) (places : List Char) :
    base.value places = base.written places := by
  rw [value, filterMap_digit?, foldl_eq_ofDigits, written]

/-- Places behind others move the value of those by one power of the radix for each of their digits. -/
theorem written_append (base : Base) (left right : List Char) :
    base.written (left ++ right) =
      base.written left * base.radix ^ (base.digits right).length + base.written right := by
  simp only [written, digits_append, List.reverse_append, Nat.ofDigits_append, List.length_reverse]
  ring

/-! ## Numbers written out -/

/-- A number is written out as a single digit, or as the number before its last digit, which is not
zero, and that digit. -/
@[elab_as_elim]
theorem toDigits_induction (base : Base) {holds : ℕ → List Char → Prop}
    (single : ∀ digit < base.radix, holds digit [Nat.digitChar digit])
    (behind : ∀ number places, ∀ digit < base.radix, 0 < number → holds number places →
      holds (base.radix * number + digit) (places ++ [Nat.digitChar digit])) (number : ℕ) :
    holds number (Nat.toDigits base.radix number) := by
  induction number using Nat.strongRecOn with
  | _ number ih =>
      by_cases small : number < base.radix
      · rw [Nat.toDigits_of_lt_base small]
        exact single number small
      · have positive := base.two_le_radix
        have less : number / base.radix < number := Nat.div_lt_self (by omega) positive
        have more : 0 < number / base.radix := Nat.div_pos (Nat.le_of_not_lt small) (by omega)
        have last := Nat.mod_lt number (show 0 < base.radix by omega)
        have whole := behind _ _ _ last more (ih _ less)
        rwa [Nat.div_add_mod, ← Nat.toDigits_of_base_le positive (Nat.le_of_not_lt small)] at whole

theorem digit?_digitChar (base : Base) {value : ℕ} (small : value < base.radix) :
    base.digit? (Nat.digitChar value) = some value := by
  have all : ∀ value < base.radix, base.digit? (Nat.digitChar value) = some value := by
    cases base <;> decide
  exact all value small

theorem digits_digitChar (base : Base) {value : ℕ} (small : value < base.radix) :
    base.digits [Nat.digitChar value] = [value] := by
  rw [← filterMap_digit?, List.filterMap_cons_some (digit?_digitChar base small), List.filterMap_nil]

/-- A number written out in a base has its own value. -/
theorem value_toDigits (base : Base) (number : ℕ) :
    base.value (Nat.toDigits base.radix number) = number := by
  rw [value_eq_written]
  induction number using toDigits_induction base with
  | single digit small =>
      rw [written, digits_digitChar base small]
      exact Nat.ofDigits_singleton
  | behind number places digit small more ih =>
      rw [written_append, ih, written, digits_digitChar base small, List.reverse_singleton,
        Nat.ofDigits_singleton, List.length_singleton, Nat.pow_one, Nat.mul_comm]

/-- A number is written out with digits of the base. -/
theorem hasDigit_of_mem_toDigits (base : Base) (number : ℕ) :
    ∀ c ∈ Nat.toDigits base.radix number, base.HasDigit c := by
  have isDigit (digit : ℕ) (small : digit < base.radix) : base.HasDigit (Nat.digitChar digit) :=
    isSome_digit?_iff.mp (Option.isSome_of_eq_some (digit?_digitChar base small))
  induction number using toDigits_induction base with
  | single digit small => exact List.forall_mem_singleton.mpr (isDigit digit small)
  | behind number places digit small more ih =>
      intro c member
      rcases List.mem_append.mp member with earlier | last
      · exact ih c earlier
      · rw [List.mem_singleton.mp last]
        exact isDigit digit small

/-- A number but zero is written with another digit than zero in front. -/
theorem exists_toDigits_eq_cons (base : Base) {number : ℕ} (positive : 0 < number) :
    ∃ first rest, Nat.toDigits base.radix number = first :: rest ∧ first ≠ '0' := by
  induction number using toDigits_induction base with
  | single digit small =>
      have each : ∀ digit < base.radix, 0 < digit → Nat.digitChar digit ≠ '0' := by
        cases base <;> decide
      exact ⟨_, [], rfl, each digit small positive⟩
  | behind number places digit small more ih =>
      obtain ⟨first, rest, rfl, other⟩ := ih more
      exact ⟨first, rest ++ [Nat.digitChar digit], rfl, other⟩

/-- No other character occurs in a number that is written out. -/
theorem notMem_toDigits {base : Base} {c : Char} (other : base.digit? c = none) (number : ℕ) :
    c ∉ Nat.toDigits base.radix number := by
  intro member
  have digit := isSome_digit?_iff.mpr (base.hasDigit_of_mem_toDigits number c member)
  rw [other] at digit
  cases digit

end Lexing.Lexeme.Base
