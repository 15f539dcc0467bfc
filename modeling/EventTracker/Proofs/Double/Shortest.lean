import EventTracker.Proofs.Double.Rounding

/-!
# The shortest decimal reads back

Whichever decimal `Double.shortest` settles on, a point of one of the grids or the exact
decimal behind them, it rounds to the rank it was made for.
-/

namespace EventTracker

theorem rankUnits_of_lt {rank : Nat} (h : rank < runLength) : rankUnits rank = rank := by
  unfold rankUnits
  rw [if_pos h]

theorem rankUnits_of_le {rank : Nat} (h : runLength ≤ rank) :
    rankUnits rank = (rank % runLength + runLength) * 2 ^ (rank / runLength - 1) := by
  unfold rankUnits
  rw [if_neg (by omega), Nat.shiftLeft_eq]

theorem runLength_pos : 0 < runLength := by decide

/-- A shifted mantissa has its leading bit at the place that the shift says. -/
theorem log2_mantissa {mantissa : Nat} (low : runLength ≤ mantissa) (high : mantissa < 2 * runLength)
    (shift : Nat) : (mantissa * 2 ^ shift).log2 = 52 + shift := by
  have pos : 0 < mantissa * 2 ^ shift :=
    Nat.mul_pos (Nat.lt_of_lt_of_le runLength_pos low) (Nat.two_pow_pos _)
  apply (Nat.log2_eq_iff (Nat.ne_of_gt pos)).2
  constructor
  · rw [Nat.pow_add]
    exact Nat.mul_le_mul_right _ low
  · rw [Nat.add_right_comm, Nat.pow_add]
    exact Nat.mul_lt_mul_of_pos_right high (Nat.two_pow_pos _)

namespace Double

/-- A rank is the rank of its own magnitude. -/
theorem rankOfRatio_rankUnits {rank : Nat} (finite : rank ≤ infinityRank) :
    rankOfRatio (rankUnits rank) unitsPerOne = rank := by
  unfold rankOfRatio
  simp only [Nat.mul_div_cancel _ unitsPerOne_pos, Nat.shiftLeft_eq]
  by_cases small : rank < runLength
  · have no_shift : rank.log2 - 52 = 0 := by
      by_cases zero : rank = 0
      · rw [zero, Nat.log2_zero]
      · have : rank.log2 < 52 := (Nat.log2_lt zero).2 small
        omega
    rw [rankUnits_of_lt small, no_shift, Nat.pow_zero, Nat.mul_one,
      roundHalfEven_mul_self _ unitsPerOne_pos, Nat.zero_mul, Nat.zero_add]
    exact Nat.min_eq_left finite
  · have large : runLength ≤ rank := by omega
    have below : rank % runLength < runLength := Nat.mod_lt _ runLength_pos
    have shift_eq : (rankUnits rank).log2 - 52 = rank / runLength - 1 := by
      rw [rankUnits_of_le large, log2_mantissa (by omega) (by omega)]
      omega
    have run_pos : 1 ≤ rank / runLength := (Nat.le_div_iff_mul_le runLength_pos).2 (by omega)
    have regroup : rankUnits rank * unitsPerOne =
        (rank % runLength + runLength) * (unitsPerOne * 2 ^ (rank / runLength - 1)) := by
      rw [rankUnits_of_le large, Nat.mul_assoc, Nat.mul_comm (2 ^ _)]
    rw [shift_eq, regroup,
      roundHalfEven_mul_self _ (Nat.mul_pos unitsPerOne_pos (Nat.two_pow_pos _))]
    have whole : (rank / runLength - 1) * runLength + (rank % runLength + runLength) = rank := by
      calc (rank / runLength - 1) * runLength + (rank % runLength + runLength)
          = (rank / runLength - 1 + 1) * runLength + rank % runLength := by
            rw [Nat.add_mul, Nat.one_mul]
            omega
        _ = runLength * (rank / runLength) + rank % runLength := by
            rw [Nat.sub_add_cancel run_pos, Nat.mul_comm]
        _ = rank := Nat.div_add_mod rank runLength
    rw [whole]
    exact Nat.min_eq_left finite

theorem rankUnits_pos {rank : Nat} (pos : 0 < rank) : 0 < rankUnits rank := by
  by_cases small : rank < runLength
  · rw [rankUnits_of_lt small]
    exact pos
  · rw [rankUnits_of_le (by omega)]
    exact Nat.mul_pos (by have := runLength_pos; omega) (Nat.two_pow_pos _)

/-- The exact decimal of a rank rounds to it. -/
theorem rankOfDecimal_exact {rank : Nat} (pos : 0 < rank) (finite : rank ≤ infinityRank) :
    rankOfDecimal (rankUnits rank * Nat.pow 5 1074) (-1074) = rank := by
  obtain ⟨bits, bits_eq, units_eq⟩ := exists_unitsPerOne_eq
  have digits_pos : 0 < rankUnits rank * Nat.pow 5 bits :=
    Nat.mul_pos (rankUnits_pos pos) (Nat.pow_pos (by decide))
  rw [← bits_eq, show (-1074 : Int) = -(bits : Int) by omega, rankOfDecimal_eq digits_pos]
  calc rankOfRatio (decimalNum (rankUnits rank * Nat.pow 5 bits) (-bits)) (decimalDen (-bits))
      = rankOfRatio (rankUnits rank) unitsPerOne := by
        apply rankOfRatio_congr (decimalDen_pos _) unitsPerOne_pos
        rw [decimalNum, decimalDen, show (-(bits : Int)).toNat = 0 by omega,
          show (- -(bits : Int)).toNat = bits by omega, Nat.pow_zero, Nat.mul_one, units_eq,
          Nat.mul_assoc, show Nat.pow 5 bits = 5 ^ bits from rfl, ← Nat.mul_pow]
    _ = rank := rankOfRatio_rankUnits finite

theorem rankOfDecimal_shortest {rank : Nat} (pos : 0 < rank) (finite : rank ≤ infinityRank) :
    rankOfDecimal (shortest rank).1 (shortest rank).2 = rank := by
  unfold shortest
  cases found : (List.range 17).findSome? fun i => gridPoint? rank (i + 1) with
  | none => exact rankOfDecimal_exact pos finite
  | some point =>
    obtain ⟨i, -, hit⟩ := List.exists_of_findSome?_eq_some found
    exact rankOfDecimal_gridPoint? hit

theorem shortest_pos {rank : Nat} (pos : 0 < rank) (finite : rank ≤ infinityRank) :
    0 < (shortest rank).1 := by
  apply Nat.pos_of_ne_zero
  intro none
  have reads := rankOfDecimal_shortest pos finite
  rw [none, rankOfDecimal, if_pos rfl] at reads
  omega

end Double

end EventTracker
