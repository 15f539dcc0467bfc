import EventTracker.Text.Padded

/-!
# Dates of the years 1 to 9999

A `Date` is the number of days since 1 January of year 1 in the Gregorian calendar.
`Date.ofCivil?` and `Date.civil` go from and to year, month and day.
-/

namespace EventTracker

/-- The number of days in the years 1 to 9999. -/
def calendarDays : Nat := 3652059

/-- A day of the years 1 to 9999. -/
structure Date where
  day : Fin calendarDays
  deriving DecidableEq

/-- Year, month and day of month, each counted from one. -/
structure Civil where
  year : Nat
  month : Nat
  day : Nat
  deriving DecidableEq

def isLeapYear (year : Nat) : Bool := year % 4 == 0 && (year % 100 != 0 || year % 400 == 0)

/-- The number of days before 1 January of a year. -/
def daysBeforeYear (year : Nat) : Nat :=
  (year - 1) * 365 + (year - 1) / 4 - (year - 1) / 100 + (year - 1) / 400

/-- The lengths of the twelve months. -/
def monthLengths (leap : Bool) : List Nat :=
  [31, if leap then 29 else 28, 31, 30, 31, 30, 31, 31, 30, 31, 30, 31]

/-- The month and the day in it of a day of the year counted from zero; `month` numbers the first
length. -/
def splitMonth (month : Nat) : List Nat → Nat → Nat × Nat
  | [], day => (month, day)
  | length :: rest, day =>
    if day < length then (month, day) else splitMonth (month + 1) rest (day - length)

/-- The year of a day, and the day in that year counted from zero. A span of 400 years has 146097
days, one of 100 years 36524, one of 4 years 1461; the last century and the last year of a span may
have a day more. -/
def splitYear (day : Nat) : Nat × Nat :=
  let n400 := day / 146097
  let r400 := day % 146097
  let n100 := min (r400 / 36524) 3
  let r100 := r400 - n100 * 36524
  let n4 := r100 / 1461
  let r4 := r100 % 1461
  let n1 := min (r4 / 365) 3
  (400 * n400 + 100 * n100 + 4 * n4 + n1 + 1, r4 - n1 * 365)

namespace Date

/-- Year, month and day of a date. -/
def civil (d : Date) : Civil :=
  let (year, dayOfYear) := splitYear d.day
  let (month, day) := splitMonth 1 (monthLengths (isLeapYear year)) dayOfYear
  ⟨year, month, day + 1⟩

/-- The date of a year, month and day, if there is one. -/
def ofCivil? (c : Civil) : Option Date :=
  let lengths := monthLengths (isLeapYear c.year)
  if 1 ≤ c.year ∧ 1 ≤ c.month ∧ 1 ≤ c.day ∧ c.day ≤ lengths[c.month - 1]?.getD 0 then
    let day := daysBeforeYear c.year + (lengths.take (c.month - 1)).foldr (· + ·) 0 + (c.day - 1)
    if h : day < calendarDays then some ⟨⟨day, h⟩⟩ else none
  else none

/-- The text `YYYY-MM-DD`. -/
def isoText (d : Date) : List Char :=
  let c := d.civil
  padded 4 c.year ++ '-' :: padded 2 c.month ++ '-' :: padded 2 c.day

end Date

end EventTracker
