import EventTracker.Json.Text
import EventTracker.Value.Shown

/-!
# Writing JSON

`Json.print` writes a value without blanks. Tuples are arrays, dates are their ISO text,
and numbers, truth values and null as keys are spelled as they would be as values.
Doubles that have no digits are written `NaN`, `Infinity` and `-Infinity`. What cannot be
written is an `EncodeError`, and so is a container that is nested too deeply; of several,
the first in reading order, a key before its value. `Json.encode` goes down to `maxDepth`.
A text that is not written in ASCII holds its surrogates as they are; `Json.gap?` finds the
first of them, at which its encoding in UTF-8 fails.
-/

namespace EventTracker.Json

/-- Surrogates that stand in a row in a text: the place of the first, that one, and how many
follow it. -/
structure Gap where
  place : Nat
  first : Fin 0x800
  more : Nat
  deriving DecidableEq

namespace Gap

/-- The gap as seen from a text with `count` code points more in front. -/
def after (count : Nat) (g : Gap) : Gap := { g with place := count + g.place }

/-- The characters that cannot be encoded: the only one as it is shown, or the range of places. -/
def extent (g : Gap) : String :=
  if g.more = 0 then
    s!"character {quotedText (.ofPoints [.surrogate g.first])} in position {g.place}"
  else s!"characters in position {g.place}-{g.place + g.more}"

def message (g : Gap) : String :=
  s!"'utf-8' codec can't encode {g.extent}: surrogates not allowed"

end Gap

/-- Why a value has no JSON text. -/
inductive EncodeError where
  | unsupportedValue (typeName : String)
  | unsupportedKey (typeName : String)
  /-- An integer exceeds the digit limit. -/
  | integerTooLong
  | tooDeep
  /-- The text holds surrogates and has no UTF-8. -/
  | surrogates (gap : Gap)
  deriving DecidableEq

namespace EncodeError

def message : EncodeError → String
  | .unsupportedValue name => s!"Object of type {name} is not JSON serializable"
  | .unsupportedKey name => s!"keys must be str, int, float, bool or None, not {name}"
  | .integerTooLong =>
    "Exceeds the limit (4300 digits) for integer string conversion; use " ++
      "sys.set_int_max_str_digits() to increase the limit"
  | .tooDeep => "The value is nested too deeply"
  | .surrogates gap => gap.message

/-- What kind of misuse the error is. -/
def misuse : EncodeError → Misuse
  | .unsupportedValue _ | .unsupportedKey _ => .wrongType
  | .integerTooLong => .badValue
  | .tooDeep => .tooDeep
  | .surrogates _ => .surrogate

end EncodeError

/-- The name of a key's type, with its module where it has one. -/
def keyTypeName : Value → String
  | .date _ => "datetime.date"
  | .datetime _ => "datetime.datetime"
  | v => v.typeName

def boolText (b : Bool) : List Char := if b then ['t', 'r', 'u', 'e'] else ['f', 'a', 'l', 's', 'e']

def nullText : List Char := ['n', 'u', 'l', 'l']

def doubleText (d : Double) : List Char :=
  d.textWith ['I', 'n', 'f', 'i', 'n', 'i', 't', 'y'] ['N', 'a', 'N']

def intText (n : Int) : Except EncodeError (List Char) :=
  (limitedIntegerText? n).elim (.error .integerTooLong) .ok

/-- The spelling of a key. -/
def keyText : Value → Except EncodeError Text
  | .str t => .ok t
  | .null => .ok (String.ofList nullText)
  | .bool b => .ok (String.ofList (boolText b))
  | .int n => (intText n).map fun digits => String.ofList digits
  | .float d => .ok (String.ofList (doubleText d))
  | key => .error (.unsupportedKey (keyTypeName key))

/-- Parts with commas between them. -/
def commaSeparated : List (List Char) → List Char
  | [] => []
  | [part] => part
  | part :: rest => part ++ ',' :: commaSeparated rest

mutual

/-- The JSON text of a value, in ASCII only if `ascii`. Each level of nesting takes one unit of
`room`. -/
def print (ascii : Bool) : (room : Nat) → Value → Except EncodeError (List Char)
  | _, .null => .ok nullText
  | _, .bool b => .ok (boolText b)
  | _, .int n => intText n
  | _, .float d => .ok (doubleText d)
  | _, .str t => .ok (quoted ascii t.points)
  | _, .date d => .ok (quoted ascii (CodePoint.ofChars d.isoText))
  | _, .datetime t => .ok (quoted ascii (CodePoint.ofChars t.isoText))
  | 0, .list _ | 0, .tuple _ | 0, .map _ => .error .tooDeep
  | room + 1, .list items =>
    (printItems ascii room items).map fun parts => '[' :: commaSeparated parts ++ [']']
  | room + 1, .tuple items =>
    (printItems ascii room items).map fun parts => '[' :: commaSeparated parts ++ [']']
  | room + 1, .map entries =>
    (printEntries ascii room entries).map fun parts => '\x7b' :: commaSeparated parts ++ ['\x7d']
  | _, .bytes bs => .error (.unsupportedValue (Value.bytes bs).typeName)
  | _, .callback c => .error (.unsupportedValue (Value.callback c).typeName)
  | _, .foreign f => .error (.unsupportedValue f.typeName)

def printItems (ascii : Bool) (room : Nat) : List Value → Except EncodeError (List (List Char))
  | [] => .ok []
  | v :: rest => do
    let first ← print ascii room v
    let others ← printItems ascii room rest
    .ok (first :: others)

def printEntries (ascii : Bool) (room : Nat) :
    List (Value × Value) → Except EncodeError (List (List Char))
  | [] => .ok []
  | (k, v) :: rest => do
    let key ← keyText k
    let value ← print ascii room v
    let others ← printEntries ascii room rest
    .ok ((quoted ascii key.points ++ ':' :: value) :: others)

end

/-- The JSON text of a value that is not nested too deeply. -/
def encode (ascii : Bool) (v : Value) : Except EncodeError String :=
  (print ascii maxDepth v).map String.ofList

/-- The first surrogates of a text between quotes. -/
def textGap? (t : Text) : Option Gap := (pointsGap? t.points).map (Gap.after 1)
where
  pointsGap? : List CodePoint → Option Gap
    | [] => none
    | .char c :: rest => (pointsGap? rest).map (Gap.after (escapeChar false c).length)
    | .surrogate n :: rest => some ⟨0, n, (rest.takeWhile CodePoint.isSurrogate).length⟩

/-- How many characters a value takes that holds no surrogates. -/
def writtenLength (v : Value) : Nat := ((print false v.depth v).toOption.getD []).length

mutual

/-- The first surrogates in the text of a value that is not written in ASCII. -/
def gap? : Value → Option Gap
  | .str t => textGap? t
  | .list items | .tuple items => (itemsGap? items).map (Gap.after 1)
  | .map entries => (entriesGap? entries).map (Gap.after 1)
  | _ => none

def itemsGap? : List Value → Option Gap
  | [] => none
  | v :: rest => (gap? v).or ((itemsGap? rest).map (Gap.after (writtenLength v + 1)))

def entriesGap? : List (Value × Value) → Option Gap
  | [] => none
  | (k, v) :: rest =>
    let key := (keyText k).toOption.getD ""
    (textGap? key).or
      (((gap? v).or ((entriesGap? rest).map (Gap.after (writtenLength v + 1)))).map
        (Gap.after ((quoted false key.points).length + 1)))

end

end EventTracker.Json
