import EventTracker.Text.Quoted
import EventTracker.Double.Text
import EventTracker.Value.Depth

/-!
# Values as shown in messages

`Value.spelled` writes a value the way its type is written in a program: text in quotes,
containers in brackets, dates as constructor calls. Integers of more than `digitLimit`
digits are not converted; a value that holds one is a bad value. A container nested deeper
than there is room for makes a value too deep. Of both, the first in reading order counts.
`Value.shown` goes down to `maxDepth`.
-/

namespace EventTracker

/-- The number of digits up to which integers are converted to and from text. -/
def digitLimit : Nat := 4300

/-- Whether an integer has more digits than are converted. -/
def exceedsDigitLimit (n : Int) : Bool := Nat.pow 10 digitLimit ≤ n.natAbs

/-- The decimal text of an integer within the limit. -/
def limitedIntegerText? (n : Int) : Option (List Char) :=
  if exceedsDigitLimit n then none else some (integerText n)

/-- The parts of an offset as a span of time: days, seconds and microseconds, all but the days
at least zero. -/
def Offset.spanText (o : Offset) : String :=
  let whole := (o.microseconds % dayMicroseconds).toNat
  let days := if o.microseconds < 0 then ["days=-1"] else []
  let seconds := whole / 1000000
  let fraction := whole % 1000000
  ", ".intercalate (days ++ (if seconds = 0 then [] else [s!"seconds={seconds}"]) ++
    if fraction = 0 then [] else [s!"microseconds={fraction}"])

/-- An offset as a time zone. -/
def Offset.shown (o : Offset) : String :=
  if o.microseconds = 0 then "datetime.timezone.utc"
  else s!"datetime.timezone(datetime.timedelta({o.spanText}))"

def Date.shown (d : Date) : String :=
  let c := d.civil
  s!"datetime.date({c.year}, {c.month}, {c.day})"

/-- Year to minute, then second and microsecond as far as they are not zero, then the zone. -/
def DateTime.shown (t : DateTime) : String :=
  let c := t.date.civil
  let seconds := t.timeOfDay / 1000000
  let fraction := t.timeOfDay % 1000000
  let tail := if fraction ≠ 0 then [seconds % 60, fraction]
    else if seconds % 60 ≠ 0 then [seconds % 60] else []
  let numbers := [c.year, c.month, c.day, seconds / 3600, seconds / 60 % 60] ++ tail
  let zone := (t.offset.map fun o => ["tzinfo=" ++ o.shown]).getD []
  "datetime.datetime(" ++ ", ".intercalate (numbers.map toString ++ zone) ++ ")"

namespace Value

mutual

/-- A value as it is written in a program. Each level of nesting takes one unit of `room`. -/
def spelled : (room : Nat) → Value → Except Misuse String
  | _, .null => .ok "None"
  | _, .bool true => .ok "True"
  | _, .bool false => .ok "False"
  | _, .int n => ((limitedIntegerText? n).map String.ofList).elim (.error .badValue) .ok
  | _, .float d => .ok (String.ofList d.text)
  | _, .str t => .ok (quotedText t)
  | _, .bytes bs => .ok (quotedBytes bs)
  | _, .date d => .ok d.shown
  | _, .datetime t => .ok t.shown
  | 0, .list _ | 0, .tuple _ | 0, .map _ => .error .tooDeep
  | room + 1, .list items => do
    let parts ← spelledItems room items
    .ok ("[" ++ ", ".intercalate parts ++ "]")
  | room + 1, .tuple items => do
    let parts ← spelledItems room items
    .ok ("(" ++ ", ".intercalate parts ++ (if parts.length = 1 then ",)" else ")"))
  | room + 1, .map entries => do
    let parts ← spelledEntries room entries
    .ok ("\x7b" ++ ", ".intercalate parts ++ "\x7d")
  | _, .callback c => .ok ("<Callback " ++ c.label ++ ">")
  | _, .foreign f => .ok f.shown

def spelledItems (room : Nat) : List Value → Except Misuse (List String)
  | [] => .ok []
  | v :: rest => do
    let first ← spelled room v
    let others ← spelledItems room rest
    .ok (first :: others)

def spelledEntries (room : Nat) : List (Value × Value) → Except Misuse (List String)
  | [] => .ok []
  | (k, v) :: rest => do
    let key ← spelled room k
    let value ← spelled room v
    let others ← spelledEntries room rest
    .ok ((key ++ ": " ++ value) :: others)

end

/-- A value as it is written in a program, unless it is nested too deeply. -/
def shown (v : Value) : Except Misuse String := spelled maxDepth v

end Value

end EventTracker
