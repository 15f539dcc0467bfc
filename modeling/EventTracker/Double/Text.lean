import EventTracker.Double.Shortest

/-!
# The text of a double

The shortest digits that read back, written positionally for magnitudes from 10^-4 to
below 10^16 and with an exponent of a sign and at least two digits beyond. A number
without a fraction keeps `.0` in positional notation.
-/

namespace EventTracker.Double

/-- Digits with the point after the first `order + 1` of them. -/
def positional (digits : List Char) (order : Int) : List Char :=
  if order < 0 then '0' :: '.' :: List.replicate (-order - 1).toNat '0' ++ digits
  else
    let whole := (order + 1).toNat
    if digits.length ≤ whole then
      digits ++ List.replicate (whole - digits.length) '0' ++ ['.', '0']
    else digits.take whole ++ '.' :: digits.drop whole

/-- An exponent: a sign and at least two digits. -/
def exponentText (order : Int) : List Char :=
  let digits := Nat.toDigits 10 order.natAbs
  (if order < 0 then '-' else '+') :: List.replicate (2 - digits.length) '0' ++ digits

/-- Digits with the point after the first, and an exponent. -/
def scientific (digits : List Char) (order : Int) : List Char :=
  match digits with
  | [] => []
  | [d] => d :: 'e' :: exponentText order
  | d :: rest => d :: '.' :: rest ++ 'e' :: exponentText order

/-- The text of the magnitude of a finite rank. -/
def magnitudeText (rank : Nat) : List Char :=
  if rank = 0 then ['0', '.', '0']
  else
    let decimal := shortest rank
    let all := Nat.toDigits 10 decimal.1
    let digits := (all.reverse.dropWhile (· == '0')).reverse
    let order := decimal.2 + all.length - 1
    if -4 ≤ order ∧ order < 16 then positional digits order else scientific digits order

/-- The text of a double; `infinity` and `nan` are the words for what has no digits. -/
def textWith (infinity nan : List Char) : Double → List Char
  | .nan _ => nan
  | .signed negative rank =>
    let magnitude := if rank.1 < infinityRank then magnitudeText rank.1 else infinity
    if negative then '-' :: magnitude else magnitude

/-- The text of a double with the words `inf` and `nan`. -/
def text (d : Double) : List Char := d.textWith ['i', 'n', 'f'] ['n', 'a', 'n']

end EventTracker.Double
