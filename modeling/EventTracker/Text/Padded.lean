/-!
# Decimal text of a fixed width

`padded width n` writes `n` in decimal with zeros in front up to `width` characters.
-/

namespace EventTracker

/-- `n` in decimal, in at least `width` digits. -/
def padded (width n : Nat) : List Char :=
  let digits := Nat.toDigits 10 n
  List.replicate (width - digits.length) '0' ++ digits

/-- The decimal text of an integer. -/
def integerText (n : Int) : List Char :=
  if n < 0 then '-' :: Nat.toDigits 10 n.natAbs else Nat.toDigits 10 n.natAbs

theorem length_padded {width n : Nat} (pos : 0 < width) (h : n < Nat.pow 10 width) :
    (padded width n).length = width := by
  have := (Nat.length_toDigits_le_iff (by decide) pos).2 h
  simp only [padded, List.length_append, List.length_replicate]
  omega

end EventTracker
