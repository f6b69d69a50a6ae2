import NestedSelect.Number.Rounding

/-!
Rounded quotients and whole numbers.

A quotient of whole numbers that is not greater than `2 ^ 53` is rounded on a grid that all whole
numbers up to there lie on. Rounding never passes a whole number, and a quotient that is greater
than a positive whole number stays greater: the distance is more than half a grid step.
-/

namespace NestedSelect.Number

theorem twoTo_add (m n : Nat) : twoTo (m + n) = twoTo m * twoTo n := Nat.pow_add 2 m n

theorem twoTo_mono {m n : Nat} (le : m ≤ n) : twoTo m ≤ twoTo n :=
  Nat.pow_le_pow_right (by decide) le

theorem twoTo_lt {m n : Nat} (less : m < n) : twoTo m < twoTo n :=
  Nat.pow_lt_pow_right (by decide) less

theorem twoTo_log2_le {n : Nat} (some_ : n ≠ 0) : twoTo n.log2 ≤ n := Nat.log2_self_le some_

theorem lt_twoTo_log2 (n : Nat) : n < twoTo (n.log2 + 1) := Nat.lt_log2_self

section

variable {num den k : Nat}

/-! ### Rounding to a whole number -/

theorem le_roundEven (positive : 0 < den) (le : k * den ≤ num) : k ≤ roundEven num den := by
  have whole : k ≤ num / den := (Nat.le_div_iff_mul_le positive).2 le
  unfold roundEven
  dsimp only
  split
  · exact whole
  · split
    · omega
    · split
      · exact whole
      · omega

theorem roundEven_le (positive : 0 < den) (le : num ≤ k * den) : roundEven num den ≤ k := by
  have parts : den * (num / den) + num % den = num := Nat.div_add_mod num den
  have whole : num / den ≤ k := Nat.div_le_of_le_mul (Nat.mul_comm k den ▸ le)
  -- Rounding up takes a remainder, and with one the quotient is less than `k`.
  have above (rest : 0 < num % den) : num / den + 1 ≤ k := by
    rcases Nat.lt_or_eq_of_le whole with less | same
    · exact less
    · rw [same, Nat.mul_comm] at parts
      omega
  unfold roundEven
  dsimp only
  split
  · exact whole
  · split
    · exact above (by omega)
    · split
      · exact whole
      · exact above (by omega)

theorem lt_roundEven (positive : 0 < den) (more : (2 * k + 1) * den < 2 * num) :
    k < roundEven num den := by
  have parts : den * (num / den) + num % den = num := Nat.div_add_mod num den
  have rest : num % den < den := Nat.mod_lt num positive
  have doubled : (2 * k + 1) * den = 2 * (k * den) + den := by
    rw [Nat.add_mul, Nat.one_mul, Nat.mul_assoc]
  have whole : k ≤ num / den := (Nat.le_div_iff_mul_le positive).2 (by omega)
  rcases Nat.lt_or_eq_of_le whole with less | same
  · exact Nat.lt_of_lt_of_le less (le_roundEven positive (Nat.div_mul_le_self num den))
  · rw [← same, Nat.mul_comm] at parts
    unfold roundEven
    dsimp only
    rw [if_neg (by omega), if_pos (by omega)]
    omega

end

/-! ### The grid -/

theorem overPower_neg (num den shift : Nat) :
    overPower num den (-(shift : Int)) = (num * twoTo shift, den) := by
  unfold overPower
  split
  · have none_ : shift = 0 := by omega
    subst none_
    simp
  · rw [Int.neg_neg, Int.toNat_natCast]

variable {n m : Nat}

theorem log2_le_of_le (some_ : m ≠ 0) (le : m ≤ n) : m.log2 ≤ n.log2 := by
  refine Nat.le_of_not_lt (fun more => ?_)
  have longer := Nat.le_trans (twoTo_mono more) (twoTo_log2_le some_)
  exact absurd (lt_twoTo_log2 n) (Nat.not_lt.2 (Nat.le_trans longer le))

/-- The exponent that is tried first is not positive, but for the one quotient `2 ^ 53`. -/
theorem guess_bounded (positive : 0 < m) (bounded : n ≤ twoTo 53)
    (apart : ¬ (n = twoTo 53 ∧ m = 1)) : n.log2 ≤ 52 + m.log2 := by
  have log2_twoTo : (twoTo 53).log2 = 53 := by decide
  by_cases zero : n = 0
  · subst zero
    exact Nat.zero_le _
  · have most := log2_le_of_le zero bounded
    rw [log2_twoTo] at most
    refine Nat.le_of_not_lt (fun more => apart ?_)
    have high : n.log2 = 53 := by omega
    have low : m.log2 = 0 := by omega
    have great := twoTo_log2_le zero
    have small := lt_twoTo_log2 m
    rw [high] at great
    rw [low] at small
    change m < 2 at small
    exact ⟨Nat.le_antisymm bounded great, by omega⟩

/-- Up to `2 ^ 53` all whole numbers are on the grid, and from one on the steps of the grid are as
small as 53 bits allow. -/
theorem exists_grid (positive : 0 < m) (bounded : n ≤ twoTo 53)
    (apart : ¬ (n = twoTo 53 ∧ m = 1)) :
    ∃ shift : Nat, gridExponent n m = -(shift : Int) ∧
      (m ≤ n → twoTo 52 * m ≤ n * twoTo shift) := by
  have guessed := guess_bounded positive bounded apart
  obtain ⟨back, same⟩ : ∃ back : Nat, n.log2 + back = 52 + m.log2 :=
    ⟨52 + m.log2 - n.log2, by omega⟩
  have guess : (n.log2 : Int) - (m.log2 : Int) - 52 = -(back : Int) := by omega
  have near (le : m ≤ n) : back ≤ 52 := by
    have logs := log2_le_of_le (by omega : m ≠ 0) le
    omega
  unfold gridExponent
  simp only [guess, overPower_neg, leastExponent]
  split
  · -- One step finer: the bits that the guess leaves out are not more than one.
    refine ⟨min 1074 (back + 1), by omega, fun le => ?_⟩
    have shift : min 1074 (back + 1) = back + 1 := by
      have few := near le
      omega
    have below : m ≤ twoTo (m.log2 + 1) := Nat.le_of_lt (lt_twoTo_log2 m)
    calc twoTo 52 * m
        ≤ twoTo 52 * twoTo (m.log2 + 1) := Nat.mul_le_mul_left _ below
      _ = twoTo (n.log2 + (back + 1)) := by rw [← twoTo_add]; congr 1; omega
      _ = twoTo n.log2 * twoTo (back + 1) := twoTo_add _ _
      _ ≤ n * twoTo (back + 1) := Nat.mul_le_mul_right _ (twoTo_log2_le (by omega))
      _ = n * twoTo (min 1074 (back + 1)) := by rw [shift]
  · rename_i enough
    refine ⟨min 1074 back, by omega, fun le => ?_⟩
    have shift : min 1074 back = back := by
      have few := near le
      omega
    rw [shift]
    exact (Nat.le_div_iff_mul_le positive).1 (Nat.le_of_not_lt enough)

/-! ### Whole numbers around a quotient -/

theorem ceil_neg_le_iff {mantissa shift k : Nat} :
    (Magnitude.mk mantissa (-(shift : Int))).ceil ≤ k ↔ mantissa ≤ k * twoTo shift := by
  have step := twoTo_pos shift
  unfold Magnitude.ceil
  dsimp only
  split
  · have none_ : shift = 0 := by omega
    subst none_
    simp
  · rw [Int.neg_neg, Int.toNat_natCast, ← Nat.lt_succ_iff, Nat.div_lt_iff_lt_mul step,
      Nat.succ_mul]
    omega

theorem half_step_lt {shift k : Nat} (bounded : n ≤ twoTo 53) (less : k * m < n)
    (fine : twoTo 52 * m ≤ n * twoTo shift) :
    (2 * (k * twoTo shift) + 1) * m < 2 * (n * twoTo shift) := by
  have step : 0 < twoTo shift := twoTo_pos shift
  generalize twoTo shift = step_ at fine step ⊢
  obtain ⟨rest, rfl⟩ : ∃ rest, n = k * m + 1 + rest := ⟨n - (k * m + 1), by omega⟩
  refine Nat.lt_of_not_le (fun close => ?_)
  -- Half a step is not less than the distance `(1 + rest) / m` to `k`.
  have half : 2 * step_ + 2 * (rest * step_) ≤ m := by
    have sides : (2 * (k * step_) + 1) * m = 2 * (k * m * step_) + m := by
      rw [Nat.add_mul, Nat.one_mul, Nat.mul_assoc, Nat.mul_right_comm k]
    rw [sides, Nat.add_mul, Nat.add_mul, Nat.one_mul] at close
    omega
  have coarse : (k * m + 1 + rest) * step_ ≤ twoTo 53 * step_ := Nat.mul_le_mul_right _ bounded
  have double : twoTo 53 * step_ = twoTo 52 * (2 * step_) := by
    rw [← Nat.mul_assoc]
    rfl
  -- So the dividend is the bound, which is even, and the divisor is twice the step.
  have divisor : m = 2 * step_ := by
    have most : m ≤ 2 * step_ :=
      Nat.le_of_mul_le_mul_left (by omega) (twoTo_pos 52)
    omega
  have dividend : twoTo 53 ≤ k * m + 1 + rest := by
    rw [divisor, ← double] at fine
    exact Nat.le_of_mul_le_mul_right (divisor ▸ fine) step
  have none_ : rest = 0 := by
    have nothing : rest * step_ = 0 := by omega
    exact (Nat.mul_eq_zero.1 nothing).resolve_right (by omega)
  have even : twoTo 53 = 2 * twoTo 52 := rfl
  have doubled : k * m = 2 * (k * step_) := by rw [divisor, Nat.mul_left_comm]
  omega

/-! ### The nearest number to a quotient -/

theorem nearest_ceil_le {k : Nat} (positive : 0 < m) (bounded : n ≤ twoTo 53) (le : n ≤ k * m) :
    (nearest n m).ceil ≤ k := by
  by_cases apart : n = twoTo 53 ∧ m = 1
  · obtain ⟨rfl, rfl⟩ := apart
    have exact_ : (nearest (twoTo 53) 1).ceil = twoTo 53 := by decide
    omega
  · obtain ⟨shift, grid, -⟩ := exists_grid positive bounded apart
    simp only [nearest, grid, overPower_neg, ceil_neg_le_iff]
    refine roundEven_le positive ?_
    rw [Nat.mul_right_comm]
    exact Nat.mul_le_mul_right _ le

theorem lt_nearest_ceil {k : Nat} (positive : 0 < m) (bounded : n ≤ twoTo 53) (some_ : 0 < k)
    (less : k * m < n) : k < (nearest n m).ceil := by
  by_cases apart : n = twoTo 53 ∧ m = 1
  · obtain ⟨rfl, rfl⟩ := apart
    have exact_ : (nearest (twoTo 53) 1).ceil = twoTo 53 := by decide
    omega
  · obtain ⟨shift, grid, fine⟩ := exists_grid positive bounded apart
    have le : m ≤ n := Nat.le_trans (Nat.le_mul_of_pos_left m some_) (Nat.le_of_lt less)
    rw [← Nat.not_le]
    simp only [nearest, grid, overPower_neg, ceil_neg_le_iff, Nat.not_le]
    exact lt_roundEven positive (half_step_lt bounded less (fine le))

theorem floor_le_ceil (x : Magnitude) : x.floor ≤ x.ceil := by
  unfold Magnitude.floor Magnitude.ceil
  split
  · exact Nat.le_refl _
  · exact Nat.div_le_div_right (Nat.le_add_right _ _)

theorem not_overflows_nearest (positive : 0 < m) (bounded : n ≤ twoTo 53) :
    (nearest n m).overflows = false := by
  have ceil : (nearest n m).ceil ≤ n :=
    nearest_ceil_le positive bounded (Nat.le_mul_of_pos_right n positive)
  have floor : (nearest n m).floor < twoTo 1024 :=
    calc (nearest n m).floor
        ≤ (nearest n m).ceil := floor_le_ceil _
      _ ≤ twoTo 53 := Nat.le_trans ceil bounded
      _ < twoTo 1024 := twoTo_lt (by decide)
  simpa [Magnitude.overflows] using floor

end NestedSelect.Number
