import EventTracker.Double.Reading
import EventTracker.Storage.Basic
import EventTracker.Text.Hex

/-!
# Ids and clock

What a tracker draws from its surroundings: ids and readings of a clock. Device ids and
insert ids come from one sequence of numbers; the one is written in groups with dashes,
the other as 32 hexadecimal digits. Nothing is said here of the numbers; that they never
repeat is for those to assume who need it.
-/

namespace EventTracker

/-- The text of a number as a device id. -/
def dashedId (n : Nat) : String :=
  let digits := hexText 32 n
  let part (start count : Nat) : List Char := (digits.drop start).take count
  String.ofList (part 0 8 ++ '-' :: part 8 4 ++ '-' :: part 12 4 ++ '-' :: part 16 4 ++
    '-' :: part 20 12)

/-- The text of a number as an insert id. -/
def plainId (n : Nat) : String := String.ofList (hexText 32 n)

/-- A source of ids: the numbers that it issues one after another, how many of them it has issued,
and device ids to hand out first. -/
structure IdSource where
  numbers : Nat → Nat
  issued : Nat
  deviceIds : List String

namespace IdSource

/-- The number that is issued next. -/
def next (ids : IdSource) : Nat := ids.numbers ids.issued

/-- Draws a device id. -/
def device (ids : IdSource) : String × IdSource :=
  match ids.deviceIds with
  | id :: rest => (id, { ids with deviceIds := rest })
  | [] => (dashedId ids.next, { ids with issued := ids.issued + 1 })

/-- Draws an insert id. -/
def insert (ids : IdSource) : String × IdSource :=
  (plainId ids.next, { ids with issued := ids.issued + 1 })

end IdSource

/-- A clock: one that advances by a second with each of its readings, or one that stands still. -/
inductive Clock where
  | ticking (readings : Nat)
  | fixed (reading : Value)

namespace Clock

/-- A reading as a double. -/
def number (reading : Value) : Except Fault Double :=
  match reading with
  | .float d => .ok d
  | .int n => (Double.ofInt? n).elim (.error .outOfRange) .ok
  | .bool b => .ok (Double.ofDecimal false (if b then 1 else 0) 0)
  | .str (.plain s) => (Double.read? s.toList).elim (.error (.misuse .badValue)) .ok
  | .str (.rough _) => .error (.misuse .badValue)
  | .bytes bs =>
    if bs.all fun b => b.toNat < 0x80 then
      (Double.read? (bs.map fun b => Char.ofNat b.toNat)).elim (.error (.misuse .badValue)) .ok
    else .error (.misuse .badValue)
  | _ => .error (.misuse .wrongType)

/-- Reads the clock. A ticking one starts at 1700000000.5 seconds. -/
def read : Clock → Except Fault Double × Clock
  | .ticking readings =>
    (.ok (Double.ofDecimal false (17000000005 + 10 * readings) (-1)), .ticking (readings + 1))
  | .fixed reading => (number reading, .fixed reading)

end Clock

/-- All that a tracker's state lives in: the disk, the ids and the clock. -/
structure Desk extends Disk where
  ids : IdSource
  clock : Clock

end EventTracker
