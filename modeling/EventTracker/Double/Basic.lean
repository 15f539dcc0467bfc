/-!
# Double-precision numbers

A `Double` is NaN with a payload or a sign with a rank: the place of its magnitude in the
ascending list of all binary64 magnitudes, 0 for zero and `infinityRank` for infinity.
Magnitudes are measured in units of 2^-1074, the least positive one.
-/

namespace EventTracker

/-- The rank of infinity; all ranks below it are finite. -/
def infinityRank : Nat := 0x7FF0000000000000

/-- The number of units of 2^-1074 in one. -/
@[irreducible] def unitsPerOne : Nat := 1 <<< 1074

/-- A binary64 number. NaNs differ by their payloads, which no operation looks into. -/
inductive Double where
  | nan (payload : Nat)
  | signed (negative : Bool) (rank : Fin (infinityRank + 1))
  deriving DecidableEq

/-- The number of ranks in a run, which are those of one mantissa of 52 bits each. -/
def runLength : Nat := 0x10000000000000

/-- The magnitude of a rank, in units of 2^-1074: its place in its run, and from the second run on
a leading one and a shift. -/
def rankUnits (rank : Nat) : Nat :=
  if rank < runLength then rank
  else (rank % runLength + runLength) <<< (rank / runLength - 1)

namespace Double

/-- The number of a sign and a rank, ranks beyond infinity being infinity. -/
def ofRank (negative : Bool) (rank : Nat) : Double :=
  .signed negative ⟨min rank infinityRank, by omega⟩

def isFinite : Double → Bool
  | .nan _ => false
  | .signed _ rank => rank.1 < infinityRank

/-- Whether the number is zero, of either sign. -/
def isZero : Double → Bool
  | .nan _ => false
  | .signed _ rank => rank.1 == 0

/-- Whether the number is zero or less. NaN is not. -/
def nonpositive : Double → Bool
  | .nan _ => false
  | .signed negative rank => negative || rank.1 == 0

/-- The integer that the number equals, if there is one. -/
def whole? : Double → Option Int
  | .nan _ => none
  | .signed negative rank =>
    let units := rankUnits rank.1
    if rank.1 < infinityRank ∧ units % unitsPerOne = 0 then
      let n : Int := units / unitsPerOne
      some (if negative then -n else n)
    else none

end Double

end EventTracker
