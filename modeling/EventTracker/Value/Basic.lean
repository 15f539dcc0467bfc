import EventTracker.Calendar.DateTime
import EventTracker.Text.CodePoint
import EventTracker.Value.Entries

/-!
# Values

The values that a caller may hand to the tracker: JSON-like data, bytes, dates, tuples,
mappings with arbitrary keys, callbacks, and foreign objects. Callbacks and foreign
objects carry marks, by which alone they are compared. A foreign object is of a type that
neither JSON nor the checks of records know: no text, number, sequence, mapping or date,
and nothing that can be called. It has texts, which may read like numbers.
-/

namespace EventTracker

/-- What a callback does after it has recorded the outcome of its request. -/
inductive Reaction where
  | settle
  /-- It fails. -/
  | fail
  /-- It tracks another event on the current tracker. -/
  | track (event : String)
  deriving DecidableEq

/-- A caller's function that receives the outcome of a request. The mark tells it apart from all
other functions. -/
structure Callback where
  label : String
  reaction : Reaction
  mark : Nat
  deriving DecidableEq

/-- An object of a type that nothing is known of but its name and how it is written. -/
structure Foreign where
  typeName : String
  /-- The object as plain text. -/
  text : String
  /-- The object as it is shown in messages. -/
  shown : String
  mark : Nat
  deriving DecidableEq

/-- A caller's value. -/
inductive Value where
  | null
  | bool (b : Bool)
  | int (n : Int)
  | float (d : Double)
  | str (t : Text)
  | bytes (bs : List UInt8)
  | date (d : Date)
  | datetime (t : DateTime)
  | list (items : List Value)
  | tuple (items : List Value)
  | map (entries : List (Value × Value))
  | callback (c : Callback)
  | foreign (f : Foreign)
  deriving Inhabited

/-- A mapping between values, in order of insertion. -/
abbrev Mapping := Entries Value Value

/-- How a value fails to fit an operation. -/
inductive Misuse where
  /-- The operation does not take values of this type. -/
  | wrongType
  /-- The type fits but the value does not. -/
  | badValue
  /-- A text in which a surrogate stands has no UTF-8. -/
  | surrogate
  /-- The value is nested too deeply. -/
  | tooDeep
  deriving DecidableEq

namespace Value

/-- The name of a value's type. -/
def typeName : Value → String
  | .null => "NoneType"
  | .bool _ => "bool"
  | .int _ => "int"
  | .float _ => "float"
  | .str _ => "str"
  | .bytes _ => "bytes"
  | .date _ => "date"
  | .datetime _ => "datetime"
  | .list _ => "list"
  | .tuple _ => "tuple"
  | .map _ => "dict"
  | .callback _ => "Callback"
  | .foreign f => f.typeName

/-- Whether a value counts as true: everything but null, false, zero and what is empty. -/
def truthy : Value → Bool
  | .null => false
  | .bool b => b
  | .int n => n != 0
  | .float d => !d.isZero
  | .str t => t != .plain ""
  | .bytes bs => !bs.isEmpty
  | .list items | .tuple items => !items.isEmpty
  | .map entries => !entries.isEmpty
  | .date _ | .datetime _ | .callback _ | .foreign _ => true

/-- Whether a value can be called. -/
def callable : Value → Bool
  | .callback _ => true
  | _ => false

/-- The values that iterating over a value yields, if it can be iterated. -/
def items? : Value → Option (List Value)
  | .str t => some (t.points.map fun p => .str (.ofPoints [p]))
  | .bytes bs => some (bs.map fun b => .int b.toNat)
  | .list items | .tuple items => some items
  | .map entries => some (entries.map Prod.fst)
  | _ => none

end Value

end EventTracker
