import EventTracker.Double.Basic

/-!
# Rounding to the nearest double

`Double.rankOfRatio` gives the rank of the double nearest to a quotient, a tie going to
the even mantissa and everything from half a step above the greatest finite double on
to infinity. `Double.rankOfDecimal` does so for a decimal `digits · 10^exponent`.
-/

namespace EventTracker

/-- The integer nearest to `num / den`, a half going to the even one. -/
def roundHalfEven (num den : Nat) : Nat :=
  let q := num / den
  let r := num % den
  if 2 * r < den then q else if den < 2 * r then q + 1 else q + q % 2

namespace Double

/-- The rank nearest to `num / den`. The quotient in units of 2^-1074 is shifted to 53 bits, and
the shift is the number of runs below it. -/
def rankOfRatio (num den : Nat) : Nat :=
  let scaled := num * unitsPerOne
  let shift := (scaled / den).log2 - 52
  min (shift * runLength + roundHalfEven scaled (den <<< shift)) infinityRank

/-- The rank nearest to `digits · 10^exponent`. An exponent out of reach of every rank is settled
without computing the power. -/
def rankOfDecimal (digits : Nat) (exponent : Int) : Nat :=
  if digits = 0 then 0
  else if 400 < exponent then infinityRank
  else if 0 ≤ exponent then rankOfRatio (digits * Nat.pow 10 exponent.toNat) 1
  else if digits.log2 + 400 < -exponent then 0
  else rankOfRatio digits (Nat.pow 10 (-exponent).toNat)

/-- The double nearest to `± digits · 10^exponent`. -/
def ofDecimal (negative : Bool) (digits : Nat) (exponent : Int) : Double :=
  ofRank negative (rankOfDecimal digits exponent)

/-- The double nearest to an integer, or `none` if that is infinity. -/
def ofInt? (n : Int) : Option Double :=
  let rank := rankOfRatio n.natAbs 1
  if rank < infinityRank then some (ofRank (n < 0) rank) else none

end Double

end EventTracker
