import EventTracker.Double.Reading
import EventTracker.Schema.Flaw

/-!
# Integers given as text

An integer is plain as a minus where it is negative and digits without a leading zero. A
text that is not plain is tidied first: white space, a plus, leading zeros, a fraction of
zeros and single underscores are taken away, and what is left has to be plain. Integers of
more than `digitLimit` digits are refused.
-/

namespace EventTracker

/-- A minus at the front of a text, and the rest. -/
def splitMinus : List Char → Bool × List Char
  | '-' :: rest => (true, rest)
  | cs => (false, cs)

/-- The integer of a plain text. -/
def readPlainInteger? (cs : List Char) : Option Int :=
  let (negative, digits) := splitMinus cs
  if digitLimit < digits.length ∨ (digits.head? = some '0' ∧ digits ≠ ['0']) then none
  else (readDigits? digits).map fun n => if negative then -(n : Int) else n

/-- Whether a text begins like a plain integer and goes on beyond the digit limit. -/
def beginsTooLong (cs : List Char) : Bool :=
  let digits := (splitMinus cs).2
  digits.head? != some '0' && digitLimit < (digits.takeWhile Char.isDigit).length

/-- The text after a leading zero and the zeros and underscores that follow it. A minus may come
next; where nothing or a point does, the last character before it is kept. -/
def dropZeros? (last : Char) : List Char → Option (List Char)
  | [] => some [last]
  | c :: rest =>
    if c = '0' ∨ c = '_' then dropZeros? c rest
    else if c = '.' then some (last :: c :: rest)
    else if c = '-' ∨ c.isDigit then some (c :: rest)
    else none

/-- The text without its leading zeros, which has to begin with a digit. -/
def dropLeadingZeros? : List Char → Option (List Char)
  | '0' :: rest => dropZeros? '0' rest
  | c :: rest => if c.isDigit then some (c :: rest) else none
  | [] => none

/-- The text without a point and zeros at its end. -/
def dropZeroFraction (cs : List Char) : List Char :=
  let zeros := (cs.dropWhile (· != '.')).drop 1
  if zeros ≠ [] ∧ zeros.all (· == '0') then cs.takeWhile (· != '.') else cs

/-- The text without its underscores, none of which may stand at an end or beside another. -/
def dropSingleUnderscores? (cs : List Char) : Option (List Char) :=
  if cs.head? = some '_' ∨ cs.getLast? = some '_' ∨ ('_', '_') ∈ List.zip cs (cs.drop 1) then none
  else some (cs.filter (· != '_'))

/-- The text as it has to be plain. A sign comes before the leading zeros. -/
def tidyInteger? (cs : List Char) : Option (List Char) :=
  let unsigned := match trim isWhiteSpace cs with
    | '-' :: rest => (dropLeadingZeros? rest).map ('-' :: ·)
    | '+' :: rest => dropLeadingZeros? rest
    | trimmed => dropLeadingZeros? trimmed
  unsigned.bind fun cs => dropSingleUnderscores? (dropZeroFraction cs)

/-- The integer of a text. Only one that is too long without being tidied is told so. -/
def integerOfText (s : String) : Checked Int :=
  let cs := s.toList
  match readPlainInteger? cs with
  | some n => .ok n
  | none =>
    if beginsTooLong cs then .flaw .hugeInteger
    else ((tidyInteger? cs).bind readPlainInteger?).elim (.flaw .unreadableInteger) .ok

end EventTracker
