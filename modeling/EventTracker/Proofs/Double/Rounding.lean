import EventTracker.Double.Shortest
import Mathlib.Algebra.Group.Nat.Defs

/-!
# Rounding depends on the value alone

The rank of a quotient is that of every quotient of the same value
(`rankOfRatio_congr`), and the rank of a decimal is that of the quotient it stands for
(`rankOfDecimal_eq`): the two early exits for exponents out of reach agree with rounding.
So zeros may be moved between the digits and the exponent of a decimal
(`rankOfDecimal_mul_pow`). Rounding takes no number below 2^1000 to infinity.
-/

namespace EventTracker

/-- One is a power of two in units; the exponent is kept apart from the power, which no proof
should compute. -/
theorem exists_unitsPerOne_eq : ∃ bits, bits = 1074 ∧ unitsPerOne = 2 ^ bits := by
  obtain ⟨bits, eq⟩ : ∃ bits, bits = 1074 := ⟨1074, rfl⟩
  refine ⟨bits, eq, ?_⟩
  rw [unitsPerOne, ← eq, Nat.one_shiftLeft]

theorem unitsPerOne_pos : 0 < unitsPerOne := by
  obtain ⟨bits, -, units_eq⟩ := exists_unitsPerOne_eq
  rw [units_eq]
  exact Nat.two_pow_pos bits

theorem infinityRank_eq : infinityRank = 2047 * runLength := rfl

theorem roundHalfEven_mul_left {k : Nat} (pos : 0 < k) (num den : Nat) :
    roundHalfEven (k * num) (k * den) = roundHalfEven num den := by
  have below : 2 * (k * (num % den)) < k * den ↔ 2 * (num % den) < den := by
    rw [Nat.mul_left_comm]
    exact Nat.mul_lt_mul_left pos
  have above : k * den < 2 * (k * (num % den)) ↔ den < 2 * (num % den) := by
    rw [Nat.mul_left_comm 2]
    exact Nat.mul_lt_mul_left pos
  unfold roundHalfEven
  simp only [Nat.mul_div_mul_left _ _ pos, Nat.mul_mod_mul_left, below, above]

theorem roundHalfEven_mul_self (n : Nat) {den : Nat} (pos : 0 < den) :
    roundHalfEven (n * den) den = n := by
  unfold roundHalfEven
  simp [Nat.mul_div_cancel _ pos, pos]

theorem roundHalfEven_eq_zero {num den : Nat} (small : 2 * num < den) :
    roundHalfEven num den = 0 := by
  unfold roundHalfEven
  rw [Nat.mod_eq_of_lt (by omega), if_pos small, Nat.div_eq_of_lt (by omega)]

theorem roundHalfEven_le (num den : Nat) : roundHalfEven num den ≤ num / den + 1 := by
  unfold roundHalfEven
  simp only
  split
  · omega
  · split <;> omega

namespace Double

theorem rankOfRatio_mul_left {k : Nat} (pos : 0 < k) (num den : Nat) :
    rankOfRatio (k * num) (k * den) = rankOfRatio num den := by
  have shifted : ∀ shift, (k * den) <<< shift = k * den <<< shift := by
    intro shift
    rw [Nat.shiftLeft_eq, Nat.shiftLeft_eq, Nat.mul_assoc]
  unfold rankOfRatio
  simp only [Nat.mul_assoc k num, Nat.mul_div_mul_left _ _ pos, shifted, roundHalfEven_mul_left pos]

/-- Quotients of the same value have the same rank. -/
theorem rankOfRatio_congr {num den num' den' : Nat} (pos : 0 < den) (pos' : 0 < den')
    (same : num * den' = num' * den) : rankOfRatio num den = rankOfRatio num' den' := by
  calc rankOfRatio num den
      = rankOfRatio (den' * num) (den' * den) := (rankOfRatio_mul_left pos' num den).symm
    _ = rankOfRatio (den * num') (den * den') := by
        rw [Nat.mul_comm den' num, same, Nat.mul_comm num' den, Nat.mul_comm den' den]
    _ = rankOfRatio num' den' := rankOfRatio_mul_left pos num' den'

theorem le_rankOfRatio {num den order : Nat} (pos : 0 < den)
    (large : 2 ^ (order + 52) * den ≤ num * unitsPerOne) :
    min (order * runLength) infinityRank ≤ rankOfRatio num den := by
  have le_quotient : 2 ^ (order + 52) ≤ num * unitsPerOne / den := (Nat.le_div_iff_mul_le pos).2 large
  have le_log : order + 52 ≤ (num * unitsPerOne / den).log2 :=
    (Nat.le_log2 (by have := Nat.two_pow_pos (order + 52); omega)).2 le_quotient
  have le_runs : order * runLength ≤ ((num * unitsPerOne / den).log2 - 52) * runLength :=
    Nat.mul_le_mul_right _ (by omega)
  unfold rankOfRatio
  refine Nat.le_min.2 ⟨?_, Nat.min_le_right _ _⟩
  exact Nat.le_trans (Nat.min_le_left _ _) (Nat.le_trans le_runs (Nat.le_add_right _ _))

theorem rankOfRatio_eq_zero {num den : Nat} (small : 2 * (num * unitsPerOne) < den) :
    rankOfRatio num den = 0 := by
  unfold rankOfRatio
  have none_whole : num * unitsPerOne / den = 0 := Nat.div_eq_of_lt (by omega)
  simp only [none_whole, Nat.log2_zero, Nat.zero_sub, Nat.zero_mul, Nat.zero_add,
    Nat.shiftLeft_zero, roundHalfEven_eq_zero small, Nat.zero_min]

/-- Numbers below 2^1000 are finite. -/
theorem rankOfRatio_lt_infinityRank {num bits : Nat} (few : bits ≤ 1000) (small : num < 2 ^ bits)
    (den : Nat) : rankOfRatio num den < infinityRank := by
  obtain ⟨unitBits, unitBits_eq, units_eq⟩ := exists_unitsPerOne_eq
  let quotient := num * unitsPerOne / den
  have log_le : quotient.log2 ≤ bits + unitBits - 1 := by
    by_cases zero : quotient = 0
    · rw [zero, Nat.log2_zero]
      exact Nat.zero_le _
    · have below : quotient < 2 ^ (bits + unitBits) := by
        refine Nat.lt_of_le_of_lt (Nat.div_le_self _ _) ?_
        rw [units_eq, Nat.pow_add]
        exact Nat.mul_lt_mul_of_pos_right small (Nat.two_pow_pos _)
      have := (Nat.log2_lt zero).2 below
      omega
  have mantissa (shift : Nat) (enough : quotient.log2 ≤ shift + 52) :
      roundHalfEven (num * unitsPerOne) (den <<< shift) ≤ 2 * runLength := by
    refine Nat.le_trans (roundHalfEven_le _ _) ?_
    rw [Nat.shiftLeft_eq, ← Nat.div_div_eq_div_mul]
    refine Nat.succ_le_of_lt (Nat.div_lt_of_lt_mul ?_)
    calc quotient
        < 2 ^ (quotient.log2 + 1) := Nat.lt_log2_self
      _ ≤ 2 ^ (shift + 53) := Nat.pow_le_pow_right (by decide) (by omega)
      _ = 2 ^ shift * (2 * runLength) := Nat.pow_add 2 shift 53
  have rounded := mantissa (quotient.log2 - 52) (by omega)
  have runs : (quotient.log2 - 52) * runLength ≤ (2021 : Nat) * runLength :=
    Nat.mul_le_mul_right _ (by omega)
  have bound : 2021 * runLength + 2 * runLength < infinityRank := by decide
  unfold rankOfRatio
  refine Nat.lt_of_le_of_lt (Nat.min_le_left _ _) ?_
  exact Nat.lt_of_le_of_lt (Nat.add_le_add runs rounded) bound

/-- The numerator of a decimal as a quotient. -/
def decimalNum (digits : Nat) (exponent : Int) : Nat := digits * 10 ^ exponent.toNat

/-- The denominator of a decimal as a quotient. -/
def decimalDen (exponent : Int) : Nat := 10 ^ (-exponent).toNat

theorem decimalDen_pos (exponent : Int) : 0 < decimalDen exponent := Nat.pow_pos (by decide)

theorem rankOfDecimal_huge {digits : Nat} {exponent : Int} (pos : 0 < digits)
    (huge : 400 < exponent) :
    rankOfRatio (decimalNum digits exponent) (decimalDen exponent) = infinityRank := by
  have den_one : decimalDen exponent = 1 := by
    rw [decimalDen, show (-exponent).toNat = 0 by omega, Nat.pow_zero]
  have two_le_ten : 2 ^ (3 * exponent.toNat) ≤ 10 ^ exponent.toNat := by
    rw [Nat.pow_mul]
    exact Nat.pow_le_pow_left (by decide) _
  obtain ⟨bits, bits_eq, units_eq⟩ := exists_unitsPerOne_eq
  have large : ∀ order ≤ 2047, 2 ^ (order + 52) * 1 ≤ decimalNum digits exponent * unitsPerOne := by
    intro order small
    rw [units_eq, decimalNum, Nat.mul_one]
    calc 2 ^ (order + 52) ≤ 2 ^ (3 * exponent.toNat) * 2 ^ bits := by
          rw [← Nat.pow_add]
          exact Nat.pow_le_pow_right (by decide) (by omega)
      _ ≤ 10 ^ exponent.toNat * 2 ^ bits := Nat.mul_le_mul_right _ two_le_ten
      _ ≤ digits * 10 ^ exponent.toNat * 2 ^ bits :=
          Nat.mul_le_mul_right _ (Nat.le_mul_of_pos_left _ pos)
  have reached := le_rankOfRatio Nat.one_pos (large 2047 (Nat.le_refl _))
  rw [← infinityRank_eq, Nat.min_self] at reached
  rw [den_one]
  exact Nat.le_antisymm (Nat.min_le_right _ _) reached

theorem rankOfDecimal_tiny {digits : Nat} {exponent : Int}
    (tiny : (digits.log2 : Int) + 400 < -exponent) :
    rankOfRatio (decimalNum digits exponent) (decimalDen exponent) = 0 := by
  apply rankOfRatio_eq_zero
  have num_eq : decimalNum digits exponent = digits := by
    rw [decimalNum, show exponent.toNat = 0 by omega, Nat.pow_zero, Nat.mul_one]
  have digits_lt : digits < 2 ^ (digits.log2 + 1) := Nat.lt_log2_self
  obtain ⟨bits, bits_eq, units_eq⟩ := exists_unitsPerOne_eq
  rw [num_eq, units_eq, decimalDen]
  calc 2 * (digits * 2 ^ bits)
      < 2 * (2 ^ (digits.log2 + 1) * 2 ^ bits) :=
        Nat.mul_lt_mul_of_pos_left
          (Nat.mul_lt_mul_of_pos_right digits_lt (Nat.two_pow_pos bits)) (by decide)
    _ = 2 ^ (digits.log2 + 1 + bits + 1) := by
        rw [← Nat.pow_add, ← Nat.pow_add_one']
    _ ≤ 2 ^ (3 * (-exponent).toNat) := Nat.pow_le_pow_right (by decide) (by omega)
    _ ≤ 10 ^ (-exponent).toNat := by
        rw [Nat.pow_mul]
        exact Nat.pow_le_pow_left (by decide) _

/-- The rank of a decimal is that of its quotient, also where no power is computed. -/
theorem rankOfDecimal_eq {digits : Nat} (pos : 0 < digits) (exponent : Int) :
    rankOfDecimal digits exponent =
      rankOfRatio (decimalNum digits exponent) (decimalDen exponent) := by
  unfold rankOfDecimal
  rw [if_neg (by omega)]
  split
  case isTrue huge => exact (rankOfDecimal_huge pos huge).symm
  case isFalse _ =>
    split
    case isTrue nonneg =>
      rw [decimalDen, show (-exponent).toNat = 0 by omega]
      rfl
    case isFalse neg =>
      split
      case isTrue tiny => exact (rankOfDecimal_tiny tiny).symm
      case isFalse _ =>
        rw [decimalNum, show exponent.toNat = 0 by omega, Nat.pow_zero, Nat.mul_one]
        rfl

/-- Zeros at the end of the digits can be given to the exponent. -/
theorem rankOfDecimal_mul_pow {digits : Nat} (pos : 0 < digits) (zeros : Nat) (exponent : Int) :
    rankOfDecimal (digits * 10 ^ zeros) (exponent - zeros) = rankOfDecimal digits exponent := by
  rw [rankOfDecimal_eq (Nat.mul_pos pos (Nat.pow_pos (by decide))), rankOfDecimal_eq pos]
  apply rankOfRatio_congr (decimalDen_pos _) (decimalDen_pos _)
  simp only [decimalNum, decimalDen, Nat.mul_assoc, ← Nat.pow_add]
  congr 2
  omega

end Double

end EventTracker
