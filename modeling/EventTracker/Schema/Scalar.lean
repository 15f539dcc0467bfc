import EventTracker.Schema.IntegerText
import EventTracker.Wire.Utf8

/-!
# Checks of texts, flags and numbers

The checks are lenient: bytes in UTF-8 count as text, and flags and numbers may be given
as text, flags as 0 and 1, and integers as doubles without a fraction. Text is taken as it
is where anything goes (`checkText`); where something is read from it or asked of it, it
must not hold surrogates.
-/

namespace EventTracker

/-- The characters of a value that is text or bytes in UTF-8; `none` for other types. -/
def textOf? (unreadable : FlawKind) : Value → Option (Checked String)
  | .str (.plain s) => some (.ok s)
  | .str (.rough _) => some (.flaw .badTextBytes)
  | .bytes bs =>
    some (match textOfUtf8? bs with
      | some s => .ok s
      | none => .flaw unreadable)
  | _ => none

/-- A text without surrogates. -/
def checkPlainText (v : Value) : Checked String :=
  (textOf? .badTextBytes v).getD (.flaw .notText)

/-- A text. -/
def checkText (v : Value) : Checked Text :=
  match v with
  | .str t => .ok t
  | v => (checkPlainText v).map .plain

/-- A text of at least one character, without surrogates. -/
def checkNonemptyText (v : Value) : Checked String :=
  (checkPlainText v).bind fun s => if s = "" then Checked.flaw .emptyText else .ok s

/-- The words for true and false, in lower case. -/
def flagWord? (word : String) : Option Bool :=
  if word ∈ ["1", "on", "t", "true", "y", "yes"] then some true
  else if word ∈ ["0", "off", "f", "false", "n", "no"] then some false
  else none

/-- The flag of a whole number of 64 bits. -/
def flagOfInt? (n : Int) : Option Bool :=
  if n = 0 then some false else if n = 1 then some true else none

/-- The least positive integer that does not fit into 64 bits with a sign. -/
def wordLimit : Int := 0x8000000000000000

/-- Whether a whole number fits into 64 bits with a sign. -/
def fitsWord (n : Int) : Bool := -wordLimit ≤ n && n < wordLimit

/-- The integer that a double equals, if it lies well within 64 bits. -/
def integerOfDouble (d : Double) : Checked Int :=
  if !d.isFinite then .flaw .notFinite
  else match d.whole? with
    | some n => if -wordLimit < n ∧ n < wordLimit then .ok n else .flaw .hugeInteger
    | none => .flaw .fractionalInteger

/-- A flag: true or false, a word for it in any case, or the number 0 or 1. -/
def checkFlag (v : Value) : Checked Bool :=
  let orUnreadable (b : Option Bool) : Checked Bool := b.elim (.flaw .unreadableFlag) .ok
  match v with
  | .bool b => .ok b
  | .int n => if fitsWord n then orUnreadable (flagOfInt? n) else .flaw .notFlag
  | .float d =>
    match integerOfDouble d with
    | .ok n => orUnreadable (flagOfInt? n)
    | .error _ => .flaw .notFlag
  | v =>
    match textOf? .unreadableFlag v with
    | some text => text.bind fun s => orUnreadable (flagWord? s.toLower)
    | none => .flaw .notFlag

/-- An integer. -/
def checkInteger (v : Value) : Checked Int :=
  match v with
  | .int n => .ok n
  | .bool b => .ok (if b then 1 else 0)
  | .float d => integerOfDouble d
  | v => ((textOf? .unreadableInteger v).map (·.bind integerOfText)).getD (.flaw .notInteger)

/-- An integer of at least zero. -/
def checkCount (v : Value) : Checked Nat :=
  (checkInteger v).bind fun n => if n < 0 then Checked.flaw .negative else .ok n.toNat

/-- A number: an integer or a double. -/
inductive Number where
  | int (n : Int)
  | float (d : Double)
  deriving DecidableEq

def Number.value : Number → Value
  | .int n => .int n
  | .float d => .float d

/-- The double of a text: a plain one between white space, or one with single underscores. -/
def doubleOfText (s : String) : Checked Double :=
  let cs := s.toList
  let read := (Double.readPlain? (trim isWhiteSpace cs)).or
    ((dropSingleUnderscores? cs).bind Double.readPlain?)
  read.elim (.flaw .unreadableNumber) .ok

/-- A double. Integers and flags never get here, since they are integers first. -/
def checkDouble (v : Value) : Checked Double :=
  match v with
  | .float d => .ok d
  | v => ((textOf? .unreadableNumber v).map (·.bind doubleOfText)).getD (.flaw .notNumber)

/-- A number: numbers stay what they are, and all else is an integer if it can be one, else a
double. The flaws of a value that is neither are those of both. -/
def checkNumber (v : Value) : Checked Number :=
  match v with
  | .int n => .ok (.int n)
  | .float d => .ok (.float d)
  | v =>
    match checkInteger v, checkDouble v with
    | .ok n, _ => .ok (.int n)
    | _, .ok d => .ok (.float d)
    | .error flaws, .error more =>
      .error (flaws.map (Flaw.within (.name "int")) ++ more.map (Flaw.within (.name "float")))

end EventTracker
