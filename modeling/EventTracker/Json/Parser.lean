import EventTracker.Json.Text
import EventTracker.Double.Reading
import EventTracker.Value.Mapping
import EventTracker.Value.Shown

/-!
# Reading JSON

`Json.parse` reads one value with blanks around it. Besides strict JSON it takes the words
`NaN`, `Infinity` and `-Infinity`. A number with a fraction or an exponent is a double,
any other an integer of up to `digitLimit` digits. Of equal keys the last value wins and
the first place counts. Brackets and braces may be nested down to a limit, and one that
goes beyond it is refused where it opens. A text that is read may hold surrogates, but
outside of strings nothing is made of them: `Json.parsePoints` reads any text, and
`Json.parse` one of characters.
-/

namespace EventTracker.Json

/-- Why a text has no value. -/
inductive ParseError where
  | malformed
  /-- An integer exceeds the digit limit. -/
  | integerTooLong
  | tooDeep
  deriving DecidableEq

/-- The blanks that JSON allows between its parts. -/
def isSpace (c : Char) : Bool := c == ' ' || c == '\t' || c == '\n' || c == '\r'

def skipSpace (ps : List CodePoint) : List CodePoint :=
  ps.dropWhile fun p => p.char?.any isSpace

/-- The digits of an integer part: a zero alone, or digits of which the first is not zero. -/
def splitWhole : List Char → List Char × List Char
  | '0' :: rest => (['0'], rest)
  | cs => (cs.takeWhile Char.isDigit, cs.dropWhile Char.isDigit)

/-- The digits of a fraction after a point, if any. -/
def splitFraction : List Char → List Char × List Char
  | '.' :: rest =>
    let digits := rest.takeWhile Char.isDigit
    if digits = [] then ([], '.' :: rest) else (digits, rest.dropWhile Char.isDigit)
  | cs => ([], cs)

/-- The number after an exponent mark, if digits follow. -/
def splitExponent (cs : List Char) : Option Int × List Char :=
  match cs with
  | mark :: rest =>
    if mark = 'e' ∨ mark = 'E' then
      let (negative, after) := splitSign rest
      let digits := after.takeWhile Char.isDigit
      if digits = [] then (none, cs)
      else
        let n : Int := Nat.ofDigitChars 10 digits 0
        (some (if negative then -n else n), after.dropWhile Char.isDigit)
    else (none, cs)
  | [] => (none, [])

/-- A number without its sign, and the text after it. -/
def parseMagnitude (negative : Bool) (cs : List Char) : Except ParseError (Value × List Char) :=
  let (whole, rest) := splitWhole cs
  if whole = [] then .error .malformed
  else
    let (fraction, rest) := splitFraction rest
    let (exponent, rest) := splitExponent rest
    if fraction = [] ∧ exponent = none then
      if digitLimit < whole.length then .error .integerTooLong
      else
        let n : Int := Nat.ofDigitChars 10 whole 0
        .ok (.int (if negative then -n else n), rest)
    else
      let digits := Nat.ofDigitChars 10 (whole ++ fraction) 0
      .ok (.float (Double.ofDecimal negative digits (exponent.getD 0 - fraction.length)), rest)

/-- Removes a word from the front of a text. -/
def dropWord? : List Char → List Char → Option (List Char)
  | [], cs => some cs
  | w :: word, c :: cs => if w = c then dropWord? word cs else none
  | _ :: _, [] => none

/-- The words that stand for a value. -/
def words : List (List Char × Value) :=
  [(['n', 'u', 'l', 'l'], .null), (['t', 'r', 'u', 'e'], .bool true),
   (['f', 'a', 'l', 's', 'e'], .bool false), (['N', 'a', 'N'], .float (.nan 0)),
   (['I', 'n', 'f', 'i', 'n', 'i', 't', 'y'], .float (.ofRank false infinityRank)),
   (['-', 'I', 'n', 'f', 'i', 'n', 'i', 't', 'y'], .float (.ofRank true infinityRank))]

/-- A word or a number at the front of characters, and the characters after it. -/
def parseWord (cs : List Char) : Except ParseError (Value × List Char) :=
  match words.findSome? fun (word, value) => (dropWord? word cs).map (value, ·) with
  | some result => .ok result
  | none =>
    match cs with
    | '-' :: rest => parseMagnitude true rest
    | _ => parseMagnitude false cs

/-- A word or a number, and the text after it. -/
def parseScalar (ps : List CodePoint) : Except ParseError (Value × List CodePoint) :=
  (parseWord (CodePoint.splitChars ps).1).map fun (value, rest) =>
    (value, CodePoint.ofChars rest ++ (CodePoint.splitChars ps).2)

mutual

/-- A value at the front of a text, and the text after it. Each call spends one unit of `fuel`, and
each level of nesting one unit of `room`. -/
def parseValue : (fuel room : Nat) → List CodePoint → Except ParseError (Value × List CodePoint)
  | 0, _, _ => .error .malformed
  | fuel + 1, room, ps =>
    match room, ps with
    | _, .char '"' :: rest =>
      match readText? rest with
      | some (text, after) => .ok (.str text, after)
      | none => .error .malformed
    | 0, .char '[' :: _ | 0, .char '\x7b' :: _ => .error .tooDeep
    | room + 1, .char '[' :: rest =>
      match skipSpace rest with
      | .char ']' :: after => .ok (.list [], after)
      | items => (parseItems fuel room items).map fun (values, after) => (.list values, after)
    | room + 1, .char '\x7b' :: rest =>
      match skipSpace rest with
      | .char '\x7d' :: after => .ok (.map [], after)
      | members =>
        (parseMembers fuel room members).map fun (entries, after) =>
          (.map (Mapping.ofList entries), after)
    | _, _ => parseScalar ps

/-- The values of an array up to its closing bracket. -/
def parseItems :
    (fuel room : Nat) → List CodePoint → Except ParseError (List Value × List CodePoint)
  | 0, _, _ => .error .malformed
  | fuel + 1, room, ps => do
    let (value, rest) ← parseValue fuel room ps
    match skipSpace rest with
    | .char ']' :: after => .ok ([value], after)
    | .char ',' :: more =>
      let (values, after) ← parseItems fuel room (skipSpace more)
      .ok (value :: values, after)
    | _ => .error .malformed

/-- The members of an object up to its closing brace. -/
def parseMembers :
    (fuel room : Nat) → List CodePoint →
      Except ParseError (List (Value × Value) × List CodePoint)
  | 0, _, _ => .error .malformed
  | fuel + 1, room, ps =>
    match ps with
    | .char '"' :: rest =>
      match readText? rest with
      | none => .error .malformed
      | some (key, afterKey) =>
        match skipSpace afterKey with
        | .char ':' :: afterColon => do
          let (value, rest) ← parseValue fuel room (skipSpace afterColon)
          match skipSpace rest with
          | .char '\x7d' :: after => .ok ([(.str key, value)], after)
          | .char ',' :: more =>
            let (entries, after) ← parseMembers fuel room (skipSpace more)
            .ok ((.str key, value) :: entries, after)
          | _ => .error .malformed
        | _ => .error .malformed
    | _ => .error .malformed

end

/-- The value of a JSON text that is nested at most `room` levels deep. Two units of fuel for each
code point suffice, since two nested calls take at least one of them off. -/
def parseWithin (room : Nat) (ps : List CodePoint) : Except ParseError Value := do
  let (value, rest) ← parseValue (2 * ps.length + 2) room (skipSpace ps)
  if skipSpace rest = [] then .ok value else .error .malformed

/-- The value of a JSON text. -/
def parsePoints (ps : List CodePoint) : Except ParseError Value := parseWithin maxDepth ps

/-- The value of a JSON text of characters. -/
def parse (cs : List Char) : Except ParseError Value := parsePoints (CodePoint.ofChars cs)

end EventTracker.Json
