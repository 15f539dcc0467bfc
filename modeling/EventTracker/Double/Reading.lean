import EventTracker.Double.Rounding
import EventTracker.Text.Blank
import EventTracker.Text.DecimalDigit

/-!
# Reading doubles

`Double.readPlain?` reads a sign followed by a decimal (digits with an optional point and
an optional exponent) or by one of the words `inf`, `infinity` and `nan` in any case.
`Double.read?` allows more: white space around the number, decimal digits of every script,
and single underscores between digits.
-/

namespace EventTracker

/-- A sign at the front of a text, true for minus, and the rest. -/
def splitSign : List Char → Bool × List Char
  | '-' :: rest => (true, rest)
  | '+' :: rest => (false, rest)
  | cs => (false, cs)

/-- A nonempty run of ASCII digits and nothing else. -/
def readDigits? (cs : List Char) : Option Nat :=
  if cs ≠ [] ∧ cs.all Char.isDigit then some (Nat.ofDigitChars 10 cs 0) else none

/-- A signed run of ASCII digits. -/
def readSignedDigits? (cs : List Char) : Option Int :=
  let (negative, digits) := splitSign cs
  (readDigits? digits).map fun n => if negative then -(n : Int) else n

/-- Digits and exponent of an unsigned decimal: digits, a point and more digits, an exponent. One
side of the point may be empty; the point and the exponent may be missing. -/
def readDecimal? (cs : List Char) : Option (Nat × Int) :=
  let whole := cs.takeWhile Char.isDigit
  let rest := cs.dropWhile Char.isDigit
  let fraction := match rest with
    | '.' :: r => r.takeWhile Char.isDigit
    | _ => []
  let tail := match rest with
    | '.' :: r => r.dropWhile Char.isDigit
    | _ => rest
  let digits := Nat.ofDigitChars 10 (whole ++ fraction) 0
  if whole = [] ∧ fraction = [] then none
  else
    match tail with
    | [] => some (digits, -(fraction.length : Int))
    | 'e' :: r | 'E' :: r => (readSignedDigits? r).map fun e => (digits, e - fraction.length)
    | _ => none

/-- Drops single underscores between digits; `none` if one stands elsewhere. `before` says whether
a digit comes before the text. -/
def dropUnderscores? (before : Bool) : List Char → Option (List Char)
  | [] => some []
  | '_' :: rest =>
    if before && (rest.head?.map Char.isDigit).getD false then dropUnderscores? false rest else none
  | c :: rest => (dropUnderscores? c.isDigit rest).map (c :: ·)

namespace Double

/-- Reads a sign, then a decimal or a word. -/
def readPlain? (cs : List Char) : Option Double :=
  let (negative, body) := splitSign cs
  let word := body.map Char.toLower
  if word = ['i', 'n', 'f'] ∨ word = ['i', 'n', 'f', 'i', 'n', 'i', 't', 'y'] then
    some (ofRank negative infinityRank)
  else if word = ['n', 'a', 'n'] then some (.nan 0)
  else (readDecimal? body).map fun decimal => ofDecimal negative decimal.1 decimal.2

/-- A decimal digit of any script as the ASCII digit of the same value. -/
def asciiDigit (c : Char) : Char := ((digitValue? c).map Nat.digitChar).getD c

/-- Reads a double between white space, in digits of any script, with underscores between digits. -/
def read? (cs : List Char) : Option Double :=
  (dropUnderscores? false ((trim isWhiteSpace cs).map asciiDigit)).bind readPlain?

end Double

end EventTracker
