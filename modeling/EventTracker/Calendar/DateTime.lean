import EventTracker.Calendar.Date
import EventTracker.Double.Reading

/-!
# Points in time

A `DateTime` is a reading of a wall clock, in microseconds since the start of year 1, and
the clock's offset from universal time if that is known. `DateTime.isoText` is its text in
ISO 8601 and `DateTime.utcStamp` the text of its instant in universal time, cut to
milliseconds. A reading without an offset is taken as universal time.
-/

namespace EventTracker

/-- The number of microseconds in a day. -/
def dayMicroseconds : Nat := 86400000000

/-- The number of microseconds in the years 1 to 9999. -/
def calendarMicroseconds : Nat := calendarDays * dayMicroseconds

/-- An offset from universal time of less than a day, in microseconds, positive to the east. -/
structure Offset where
  microseconds : Int
  lt_day : microseconds.natAbs < dayMicroseconds
  deriving DecidableEq

/-- A wall-clock reading, with the clock's offset if known. -/
structure DateTime where
  wall : Fin calendarMicroseconds
  offset : Option Offset
  deriving DecidableEq

/-- How a date and a time of day are written: what stands between them, and whether the fraction
of a second has three digits or as many as needed. -/
structure TimeStyle where
  separator : Char
  milliseconds : Bool

/-- A fraction of a second in six digits, or nothing for zero. -/
def fractionText (microseconds : Nat) : List Char :=
  if microseconds = 0 then [] else '.' :: padded 6 microseconds

/-- A time of day, `HH:MM:SS` and a fraction. -/
def timeText (milliseconds : Bool) (microseconds : Nat) : List Char :=
  let seconds := microseconds / 1000000
  let fraction := microseconds % 1000000
  padded 2 (seconds / 3600) ++ ':' :: padded 2 (seconds / 60 % 60) ++ ':' ::
    padded 2 (seconds % 60) ++
    if milliseconds then '.' :: padded 3 (fraction / 1000) else fractionText fraction

/-- An offset: sign, hours and minutes, and seconds with their fraction if there are any. -/
def Offset.text (o : Offset) : List Char :=
  let size := o.microseconds.natAbs
  let seconds := size / 1000000
  let fraction := size % 1000000
  (if o.microseconds < 0 then '-' else '+') :: padded 2 (seconds / 3600) ++
    ':' :: padded 2 (seconds / 60 % 60) ++
    if seconds % 60 = 0 ∧ fraction = 0 then []
    else ':' :: padded 2 (seconds % 60) ++ fractionText fraction

namespace DateTime

/-- The day of the reading. -/
def date (t : DateTime) : Date :=
  ⟨⟨t.wall / dayMicroseconds, by
    have := t.wall.2
    simp only [calendarMicroseconds] at this
    exact Nat.div_lt_of_lt_mul (by rwa [Nat.mul_comm])⟩⟩

/-- Microseconds since midnight. -/
def timeOfDay (t : DateTime) : Nat := t.wall % dayMicroseconds

/-- Date, time of day and offset in a style. -/
def styledText (style : TimeStyle) (t : DateTime) : List Char :=
  t.date.isoText ++ style.separator :: timeText style.milliseconds t.timeOfDay ++
    (t.offset.map Offset.text).getD []

/-- The text `YYYY-MM-DDTHH:MM:SS`, with a fraction and an offset if there are any. -/
def isoText (t : DateTime) : List Char := t.styledText ⟨'T', false⟩

/-- The instant in microseconds since the start of year 1 in universal time. -/
def instant (t : DateTime) : Int := t.wall - (t.offset.map Offset.microseconds).getD 0

/-- Why an instant has no stamp in universal time. -/
inductive StampError where
  /-- The instant lies outside the years 1 to 9999. -/
  | outOfRange
  /-- A reading without an offset lies on the first day of year 1, before which local clocks cannot
  be looked up. -/
  | firstDay

/-- The text `YYYY-MM-DDTHH:MM:SS.mmmZ` of the instant, the fraction cut to milliseconds. The host's
local time is taken to be universal time, which is that of readings without an offset. -/
def utcStamp (t : DateTime) : Except StampError (List Char) :=
  if t.offset = none ∧ t.wall.1 < dayMicroseconds then .error .firstDay
  else if h : 0 ≤ t.instant ∧ t.instant < calendarMicroseconds then
    let utc : DateTime := ⟨⟨t.instant.toNat, by omega⟩, none⟩
    .ok (utc.styledText ⟨'T', true⟩ ++ ['Z'])
  else .error .outOfRange

end DateTime

end EventTracker
