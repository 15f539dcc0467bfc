import EventTracker.Double.Rounding

/-!
# The shortest decimal that reads back

`Double.shortest` gives for the rank of a positive finite double a decimal of the fewest
digits that rounds to that rank. With 1, 2, up to 17 digits it tries the two points
around the double on the decimal grid of that many digits; of two that read back the
nearer is taken, and the even one of two equally near.
-/

namespace EventTracker.Double

/-- A power of ten that makes the magnitude of every positive rank a large whole number. -/
@[irreducible] def decimalScale : Nat := Nat.pow 10 400

/-- The number of decimal digits before the point in the magnitude of a rank, less one; negative
for magnitudes below one. -/
def decimalOrder (rank : Nat) : Int :=
  (Nat.toDigits 10 (rankUnits rank * decimalScale / unitsPerOne)).length - 401

/-- Of the two integers around `num / den`, the nearest that passes the test, the even one of two
equally near. -/
def nearestHit? (num den : Nat) (hit : Nat → Bool) : Option Nat :=
  let low := num / den
  let rest := num % den
  if hit low then
    if hit (low + 1) ∧ (den < 2 * rest ∨ (2 * rest = den ∧ low % 2 = 1)) then some (low + 1)
    else some low
  else if hit (low + 1) then some (low + 1)
  else none

theorem hit_of_nearestHit? {num den n : Nat} {hit : Nat → Bool}
    (h : nearestHit? num den hit = some n) : hit n = true := by
  grind [nearestHit?]

/-- The exponent of the decimal grid on which a rank has `count` digits. -/
def gridExponent (rank count : Nat) : Int := decimalOrder rank + 1 - count

/-- The point nearest to a rank on the grid of `count` digits, among those that read back. -/
def gridPoint? (rank count : Nat) : Option (Nat × Int) :=
  let exponent := gridExponent rank count
  (nearestHit? (rankUnits rank * decimalScale) (unitsPerOne * Nat.pow 10 (exponent + 400).toNat)
    fun digits => rankOfDecimal digits exponent == rank).map (·, exponent)

/-- Digits and exponent of a decimal that reads back, of the fewest digits. The exact decimal
stands behind as a last resort. -/
def shortest (rank : Nat) : Nat × Int :=
  ((List.range 17).findSome? fun i => gridPoint? rank (i + 1)).getD
    (rankUnits rank * Nat.pow 5 1074, -1074)

theorem rankOfDecimal_gridPoint? {rank count : Nat} {p : Nat × Int}
    (h : gridPoint? rank count = some p) : rankOfDecimal p.1 p.2 = rank := by
  obtain ⟨digits, found, rfl⟩ := Option.map_eq_some_iff.1 h
  simpa using hit_of_nearestHit? found

end EventTracker.Double
