/-! # Partition points

An array whose leading elements satisfy a test and whose later ones do not is searched by halving.
`partitionPoint` is the number of leading elements; it never exceeds the size of the array, and on
such an array it splits the indices exactly. -/

namespace Lexing.Source

/-- Narrows the half-open interval of indices that holds the answer. -/
def partitionBetween (values : Array α) (test : α → Bool) (low high : Nat)
    (inside : high ≤ values.size) : Nat :=
  if open_ : low < high then
    let middle := low + (high - low) / 2
    if test values[middle] then partitionBetween values test (middle + 1) high inside
    else partitionBetween values test low middle (by omega)
  else low
termination_by high - low

/-- The number of leading elements that satisfy the test. -/
def partitionPoint (values : Array α) (test : α → Bool) : Nat :=
  partitionBetween values test 0 values.size (Nat.le_refl _)

theorem partitionBetween_le (values : Array α) (test : α → Bool) (low high : Nat)
    (inside : high ≤ values.size) (ordered : low ≤ high) :
    partitionBetween values test low high inside ≤ high := by
  fun_induction partitionBetween values test low high inside with
  | case1 low high inside open_ middle holds ih => exact ih (by omega)
  | case2 low high inside open_ middle fails ih =>
      exact Nat.le_trans (ih (by omega)) (by omega)
  | case3 => exact ordered

theorem partitionPoint_le_size (values : Array α) (test : α → Bool) :
    partitionPoint values test ≤ values.size :=
  partitionBetween_le _ _ _ _ _ (Nat.zero_le _)

/-- Once the test fails it stays failing. -/
def Partitioned (values : Array α) (test : α → Bool) : Prop :=
  ∀ i j (first : i < values.size) (second : j < values.size), i ≤ j →
    test values[j] = true → test values[i] = true

theorem partitionBetween_spec (values : Array α) (test : α → Bool) (low high : Nat)
    (inside : high ≤ values.size) (ordered : low ≤ high) (split : Partitioned values test)
    (below : ∀ i (bound : i < values.size), i < low → test values[i] = true)
    (above : ∀ i (bound : i < values.size), high ≤ i → test values[i] = false) :
    ∀ i (bound : i < values.size),
      test values[i] = true ↔ i < partitionBetween values test low high inside := by
  fun_induction partitionBetween values test low high inside with
  | case1 low high inside open_ middle holds ih =>
      refine ih (by omega) (fun i bound early => ?_) above
      exact split i middle bound (by omega) (by omega) holds
  | case2 low high inside open_ middle fails ih =>
      refine ih (by omega) below (fun i bound late => ?_)
      refine Bool.eq_false_iff.mpr fun holds => fails ?_
      exact split middle i (by omega) bound late holds
  | case3 low high inside closed =>
      intro i bound
      constructor
      · intro holds
        refine Nat.lt_of_not_le fun late => ?_
        rw [above i bound (by omega)] at holds
        cases holds
      · exact below i bound

/-- On a partitioned array exactly the indices before the partition point satisfy the test. -/
theorem lt_partitionPoint_iff {values : Array α} {test : α → Bool}
    (split : Partitioned values test) (i : Nat) (bound : i < values.size) :
    i < partitionPoint values test ↔ test values[i] = true :=
  (partitionBetween_spec values test 0 values.size (Nat.le_refl _) (Nat.zero_le _) split
    (fun _ _ early => absurd early (Nat.not_lt_zero _))
    (fun _ bound late => absurd bound (Nat.not_lt_of_le late)) i bound).symm

end Lexing.Source
