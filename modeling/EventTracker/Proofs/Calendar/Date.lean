import EventTracker.Calendar.Date
import EventTracker.Proofs.Text.Padded
import Mathlib.Algebra.BigOperators.Group.List.Basic
import Mathlib.Algebra.GroupWithZero.Nat

/-!
# The calendar

`daysBeforeYear` and `monthLengths` say which day a year, a month and a day of the month
stand for. `Date.civil` finds them from the day by division: `splitYear_spec` and
`splitMonth_spec` say what the two divisions yield, and `ofCivil?_civil` that what they
yield stands for the day they started from. Later days have later `Civil` dates
(`Date.civil_before`) and later texts (`Date.isoText_lt`).
-/

namespace EventTracker

/-! ### Years -/

/-- The number of days in a year. -/
def yearLength (year : Nat) : Nat := if isLeapYear year then 366 else 365

theorem isLeapYear_iff {year : Nat} :
    isLeapYear year = true ↔ year % 4 = 0 ∧ (year % 100 ≠ 0 ∨ year % 400 = 0) := by
  simp only [isLeapYear, Bool.and_eq_true, Bool.or_eq_true, beq_iff_eq, bne_iff_ne]

theorem daysBeforeYear_succ {year : Nat} (pos : 1 ≤ year) :
    daysBeforeYear (year + 1) = daysBeforeYear year + yearLength year := by
  obtain ⟨before, rfl⟩ : ∃ before, year = before + 1 := ⟨year - 1, by omega⟩
  have hundreds : before / 100 ≤ before / 4 := by omega
  simp only [daysBeforeYear, yearLength, isLeapYear_iff, Nat.add_sub_cancel, Nat.succ_div,
    Nat.dvd_iff_mod_eq_zero]
  by_cases four : (before + 1) % 4 = 0
  · by_cases hundred : (before + 1) % 100 = 0
    · by_cases span : (before + 1) % 400 = 0
      · rw [if_pos four, if_pos hundred, if_pos span, if_pos ⟨four, .inr span⟩]
        omega
      · rw [if_pos four, if_pos hundred, if_neg span, if_neg (by omega)]
        omega
    · rw [if_pos four, if_neg hundred, if_neg (by omega), if_pos ⟨four, .inl hundred⟩]
      omega
  · rw [if_neg four, if_neg (by omega), if_neg (by omega), if_neg (fun leap => four leap.1)]
    omega

theorem daysBeforeYear_le {m n : Nat} (pos : 1 ≤ m) (le : m ≤ n) :
    daysBeforeYear m ≤ daysBeforeYear n := by
  induction n, le using Nat.le_induction with
  | base => exact Nat.le_refl _
  | succ n le ih =>
    rw [daysBeforeYear_succ (Nat.le_trans pos le)]
    omega

/-- A day lies in the year it is split into, the given number of days after its first. -/
theorem splitYear_spec (day : Nat) :
    1 ≤ (splitYear day).1 ∧ daysBeforeYear (splitYear day).1 + (splitYear day).2 = day ∧
      (splitYear day).2 < yearLength (splitYear day).1 := by
  simp only [splitYear]
  generalize spans : day / 146097 = n400
  generalize inSpan : day % 146097 = r400
  generalize centuries : min (r400 / 36524) 3 = n100
  generalize inCentury : r400 - n100 * 36524 = r100
  generalize fours : r100 / 1461 = n4
  generalize inFour : r100 % 1461 = r4
  generalize years : min (r4 / 365) 3 = n1
  have whole : day = 146097 * n400 + r400 := by omega
  have span : r400 = 36524 * n100 + r100 := by omega
  have century : r100 = 1461 * n4 + r4 := by omega
  have n100_le : n100 ≤ 3 := by omega
  have r100_le : r100 ≤ 36523 ∨ n100 = 3 ∧ r100 ≤ 36524 := by omega
  have n4_le : n4 ≤ 24 := by omega
  have n1_le : n1 ≤ 3 := by omega
  have r4_le : r4 ≤ 1460 := by omega
  -- four years at the end of a century have the leap day only at the end of a span
  have last : n4 = 24 → n100 ≠ 3 → r4 ≤ 1459 := by omega
  clear spans inSpan centuries inCentury fours inFour r100_le
  have byFour : (400 * n400 + 100 * n100 + 4 * n4 + n1) / 4 = 100 * n400 + 25 * n100 + n4 := by omega
  have byHundred : (400 * n400 + 100 * n100 + 4 * n4 + n1) / 100 = 4 * n400 + n100 := by omega
  have bySpan : (400 * n400 + 100 * n100 + 4 * n4 + n1) / 400 = n400 := by omega
  refine ⟨by omega, ?_, ?_⟩
  · simp only [daysBeforeYear, Nat.add_sub_cancel, byFour, byHundred, bySpan]
    omega
  · have leap : isLeapYear (400 * n400 + 100 * n100 + 4 * n4 + n1 + 1) = true ↔
        n1 = 3 ∧ (n4 ≠ 24 ∨ n100 = 3) := by
      rw [isLeapYear_iff]
      omega
    simp only [yearLength, leap]
    split <;> omega

/-! ### Months -/

/-- The number of days of a year before its month at `index`. -/
def daysBeforeMonth (leap : Bool) (index : Nat) : Nat := ((monthLengths leap).take index).sum

theorem sum_monthLengths (year : Nat) : (monthLengths (isLeapYear year)).sum = yearLength year := by
  unfold yearLength
  cases isLeapYear year with
  | false => rfl
  | true => rfl

theorem daysBeforeMonth_succ {leap : Bool} {index length : Nat}
    (at_index : (monthLengths leap)[index]? = some length) :
    daysBeforeMonth leap (index + 1) = daysBeforeMonth leap index + length := by
  rw [daysBeforeMonth, List.take_add_one, at_index, List.sum_append, Option.toList_some,
    List.sum_singleton, daysBeforeMonth]

theorem daysBeforeMonth_le (leap : Bool) {m n : Nat} (le : m ≤ n) :
    daysBeforeMonth leap m ≤ daysBeforeMonth leap n := by
  obtain ⟨rest, eq⟩ := List.take_prefix_take_left (l := monthLengths leap) le
  rw [daysBeforeMonth, daysBeforeMonth, ← eq, List.sum_append]
  exact Nat.le_add_right _ _

theorem daysBeforeMonth_le_yearLength (year index : Nat) :
    daysBeforeMonth (isLeapYear year) index ≤ yearLength year := by
  rw [← sum_monthLengths, daysBeforeMonth]
  conv => rhs; rw [← List.take_append_drop index (monthLengths (isLeapYear year)), List.sum_append]
  exact Nat.le_add_right _ _

/-- A day within the lengths lies in the month it is split into. -/
theorem splitMonth_spec {lengths : List Nat} (first : Nat) {day : Nat} (bound : day < lengths.sum) :
    ∃ index length, lengths[index]? = some length ∧ (splitMonth first lengths day).1 = first + index ∧
      (splitMonth first lengths day).2 < length ∧
      (lengths.take index).sum + (splitMonth first lengths day).2 = day := by
  induction lengths generalizing first day with
  | nil => exact absurd bound (Nat.not_lt_zero day)
  | cons length rest ih =>
    rw [List.sum_cons] at bound
    by_cases here : day < length
    · refine ⟨0, length, rfl, ?_, ?_, ?_⟩
      · rw [splitMonth, if_pos here, Nat.add_zero]
      · rwa [splitMonth, if_pos here]
      · rw [splitMonth, if_pos here, List.take_zero, List.sum_nil, Nat.zero_add]
    · obtain ⟨index, later, at_index, month, lt, sum⟩ :=
        ih (first + 1) (show day - length < rest.sum by omega)
      rw [splitMonth, if_neg here]
      refine ⟨index + 1, later, at_index, ?_, lt, ?_⟩
      · omega
      · rw [List.take_succ_cons, List.sum_cons]
        omega

/-! ### Dates -/

/-- What makes a year, month and day the date of a day. -/
structure Civil.Names (c : Civil) (d : Date) : Prop where
  year_pos : 1 ≤ c.year
  month_pos : 1 ≤ c.month
  day_pos : 1 ≤ c.day
  day_le : ∃ length, (monthLengths (isLeapYear c.year))[c.month - 1]? = some length ∧ c.day ≤ length
  day_eq : d.day.1 = daysBeforeYear c.year + daysBeforeMonth (isLeapYear c.year) (c.month - 1) + (c.day - 1)

theorem ofCivil?_eq_some_iff {c : Civil} {d : Date} : Date.ofCivil? c = some d ↔ c.Names d := by
  have months : daysBeforeMonth (isLeapYear c.year) (c.month - 1) =
      ((monthLengths (isLeapYear c.year)).take (c.month - 1)).foldr (· + ·) 0 := List.sum_eq_foldr
  simp only [Date.ofCivil?]
  constructor
  · intro found
    split at found
    · next valid =>
      obtain ⟨year_pos, month_pos, day_pos, day_le⟩ := valid
      split at found
      · cases found
        refine ⟨year_pos, month_pos, day_pos, ?_, ?_⟩
        · cases at_index : (monthLengths (isLeapYear c.year))[c.month - 1]? with
          | none => rw [at_index, Option.getD_none] at day_le; omega
          | some length => exact ⟨length, rfl, by rwa [at_index] at day_le⟩
        · rw [months]
      · cases found
    · cases found
  · rintro ⟨year_pos, month_pos, day_pos, ⟨length, at_index, day_le⟩, day_eq⟩
    rw [months] at day_eq
    rw [if_pos ⟨year_pos, month_pos, day_pos, by rwa [at_index]⟩, dif_pos (day_eq ▸ d.day.2)]
    congr 2
    exact Fin.ext day_eq.symm

theorem Date.civil_eq {d : Date} {year dayOfYear month day : Nat}
    (years : splitYear d.day = (year, dayOfYear))
    (months : splitMonth 1 (monthLengths (isLeapYear year)) dayOfYear = (month, day)) :
    d.civil = ⟨year, month, day + 1⟩ := by
  simp only [Date.civil, years, months]

theorem Date.civil_names (d : Date) : d.civil.Names d := by
  have inYear := splitYear_spec d.day
  cases years : splitYear d.day with
  | mk year dayOfYear =>
    rw [years] at inYear
    obtain ⟨year_pos, day_eq, day_lt⟩ := inYear
    obtain ⟨index, length, at_index, month, lt, sum⟩ :=
      splitMonth_spec 1 (day_lt.trans_eq (sum_monthLengths _).symm)
    cases months : splitMonth 1 (monthLengths (isLeapYear year)) dayOfYear with
    | mk name day =>
      rw [months] at month lt sum
      simp only at day_eq month lt sum
      rw [Date.civil_eq years months]
      subst month
      refine ⟨year_pos, Nat.le_add_right 1 index, Nat.le_add_left 1 _, ⟨length, ?_, lt⟩, ?_⟩
      · rwa [Nat.add_sub_cancel_left]
      · simp only [Nat.add_sub_cancel_left, Nat.add_sub_cancel]
        rw [Nat.add_assoc, daysBeforeMonth, sum, day_eq]

/-- The date that a day is shown as stands for that day. -/
theorem Date.ofCivil?_civil (d : Date) : Date.ofCivil? d.civil = some d :=
  ofCivil?_eq_some_iff.2 d.civil_names

/-- Earlier by year, then by month, then by day. -/
def Civil.Before (b c : Civil) : Prop :=
  b.year < c.year ∨ b.year = c.year ∧ (b.month < c.month ∨ b.month = c.month ∧ b.day < c.day)

theorem Civil.before_trichotomy (b c : Civil) : b.Before c ∨ b = c ∨ c.Before b := by
  obtain ⟨year, month, day⟩ := b
  obtain ⟨year', month', day'⟩ := c
  simp only [Civil.Before, Civil.mk.injEq]
  omega

namespace Civil.Names

variable {b c : Civil} {d e : Date}

theorem day_lt (names : c.Names d) :
    daysBeforeMonth (isLeapYear c.year) (c.month - 1) + (c.day - 1) <
      daysBeforeMonth (isLeapYear c.year) c.month := by
  obtain ⟨-, month_pos, day_pos, ⟨length, at_index, day_le⟩, -⟩ := names
  have next := daysBeforeMonth_succ at_index
  rw [Nat.sub_add_cancel month_pos] at next
  omega

theorem before (early : b.Names d) (late : c.Names e) (first : b.Before c) : d.day.1 < e.day.1 := by
  have bound := early.day_lt
  rw [early.day_eq, late.day_eq]
  rcases first with year | ⟨year, month | ⟨month, day⟩⟩
  · have whole := daysBeforeMonth_le_yearLength b.year b.month
    have years := daysBeforeYear_le (Nat.le_succ_of_le early.year_pos) (Nat.succ_le_of_lt year)
    rw [Nat.succ_eq_add_one, daysBeforeYear_succ early.year_pos] at years
    omega
  · have months := daysBeforeMonth_le (isLeapYear c.year) (Nat.le_sub_one_of_lt month)
    rw [year] at bound ⊢
    omega
  · have pos := early.day_pos
    rw [year, month]
    omega

/-- The calendar's years have at most four digits. -/
theorem year_le (names : c.Names d) : c.year ≤ 9999 := by
  have inCalendar := d.day.2
  rw [names.day_eq] at inCalendar
  have last : daysBeforeYear 10000 = calendarDays := rfl
  apply Nat.le_of_not_lt
  intro beyond
  have := daysBeforeYear_le (by decide : 1 ≤ 10000) beyond
  omega

theorem month_le (names : c.Names d) : c.month ≤ 12 := by
  obtain ⟨length, at_index, -⟩ := names.day_le
  have inYear : c.month - 1 < (monthLengths (isLeapYear c.year)).length :=
    (List.getElem?_eq_some_iff.1 at_index).1
  have twelve : (monthLengths (isLeapYear c.year)).length = 12 := rfl
  omega

theorem day_le_thirtyOne (names : c.Names d) : c.day ≤ 31 := by
  obtain ⟨length, at_index, day_le⟩ := names.day_le
  have short : ∀ leap, ∀ length ∈ monthLengths leap, length ≤ 31 := by decide
  exact Nat.le_trans day_le (short _ _ (List.mem_of_getElem? at_index))

end Civil.Names

namespace Date

theorem civil_before {d e : Date} (lt : d.day.1 < e.day.1) : d.civil.Before e.civil := by
  rcases Civil.before_trichotomy d.civil e.civil with before | same | after
  · exact before
  · have eq : some d = some e := by rw [← ofCivil?_civil d, same, ofCivil?_civil]
    rw [Option.some.inj eq] at lt
    exact absurd lt (Nat.lt_irrefl _)
  · exact absurd lt (Nat.lt_asymm (e.civil_names.before d.civil_names after))

theorem isoText_eq {d : Date} {c : Civil} (shown : d.civil = c) :
    d.isoText = padded 4 c.year ++ '-' :: (padded 2 c.month ++ '-' :: padded 2 c.day) := by
  simp only [isoText, shown, List.append_assoc, List.cons_append]

theorem length_isoText (d : Date) : d.isoText.length = 10 := by
  have names := d.civil_names
  generalize shown : d.civil = c at names
  have year : (padded 4 c.year).length = 4 :=
    length_padded (by decide) (Nat.lt_succ_of_le names.year_le)
  have month : (padded 2 c.month).length = 2 :=
    length_padded (by decide) (Nat.lt_of_le_of_lt names.month_le (by decide))
  have day : (padded 2 c.day).length = 2 :=
    length_padded (by decide) (Nat.lt_of_le_of_lt names.day_le_thirtyOne (by decide))
  rw [isoText_eq shown, List.length_append, List.length_cons, List.length_append, List.length_cons,
    year, month, day]

/-- Later days have later texts. -/
theorem isoText_lt {d e : Date} (lt : d.day.1 < e.day.1) : d.isoText < e.isoText := by
  have late := e.civil_names
  have before := civil_before lt
  generalize shown : d.civil = b at before
  generalize shown' : e.civil = c at before late
  rw [isoText_eq shown, isoText_eq shown']
  rcases before with year | ⟨year, month | ⟨month, day⟩⟩
  · have fits : c.year < Nat.pow 10 4 := Nat.lt_succ_of_le late.year_le
    exact padded_append_lt (by decide) year fits _ _
  · rw [year]
    apply append_cons_lt
    exact padded_append_lt (by decide) month (Nat.lt_of_le_of_lt late.month_le (by decide)) _ _
  · rw [year, month]
    apply append_cons_lt
    apply append_cons_lt
    exact padded_lt_padded (by decide) day (Nat.lt_of_le_of_lt late.day_le_thirtyOne (by decide))

end Date

end EventTracker
