import EventTracker.Calendar.DateTime
import EventTracker.Proofs.Calendar.Date

/-!
# Stamps in universal time

A stamp is the text `YYYY-MM-DDTHH:MM:SS.mmmZ`. `StampFields.Denotes` says which millisecond
it stands for. `DateTime.utcStamp` writes the millisecond that an instant lies in, and since
every field has a fixed width, stamps are ordered as texts the way they follow in time.
-/

namespace EventTracker

/-- What a stamp is made of. -/
structure StampFields where
  date : Civil
  hour : Nat
  minute : Nat
  second : Nat
  millisecond : Nat

namespace StampFields

/-- The text `YYYY-MM-DDTHH:MM:SS.mmmZ`. -/
def text (f : StampFields) : List Char :=
  padded 4 f.date.year ++ '-' :: (padded 2 f.date.month ++ '-' :: (padded 2 f.date.day ++
    'T' :: (padded 2 f.hour ++ ':' :: (padded 2 f.minute ++ ':' :: (padded 2 f.second ++
      '.' :: (padded 3 f.millisecond ++ ['Z']))))))

/-- The fields are a date of the calendar and a time of day, and together the given number of
milliseconds since the start of year 1. -/
def Denotes (f : StampFields) (milliseconds : Int) : Prop :=
  f.hour < 24 ∧ f.minute < 60 ∧ f.second < 60 ∧ f.millisecond < 1000 ∧
    ∃ date, Date.ofCivil? f.date = some date ∧
      milliseconds = (((date.day.1 * 24 + f.hour) * 60 + f.minute) * 60 + f.second) * 1000 + f.millisecond

end StampFields

/-! ### Times of day -/

/-- A time of day to the millisecond, its parts one behind the other. -/
theorem timeText_eq (microseconds : Nat) : timeText true microseconds =
    padded 2 (microseconds / 1000000 / 3600) ++ ':' :: (padded 2 (microseconds / 1000000 / 60 % 60) ++
      ':' :: (padded 2 (microseconds / 1000000 % 60) ++
        '.' :: padded 3 (microseconds % 1000000 / 1000))) := by
  simp only [timeText, if_true, List.append_assoc, List.cons_append]

/-- The parts of a time of day, and of the size of an offset. -/
theorem length_dayParts {microseconds : Nat} (inDay : microseconds < dayMicroseconds) :
    (padded 2 (microseconds / 1000000 / 3600)).length = 2 ∧
      (padded 2 (microseconds / 1000000 / 60 % 60)).length = 2 ∧
      (padded 2 (microseconds / 1000000 % 60)).length = 2 := by
  have two {n : Nat} (small : n < 100) : (padded 2 n).length = 2 := length_padded (by decide) small
  unfold dayMicroseconds at inDay
  exact ⟨two (by omega), two (by omega), two (by omega)⟩

theorem length_timeText {microseconds : Nat} (inDay : microseconds < dayMicroseconds) :
    (timeText true microseconds).length = 12 := by
  obtain ⟨hour, minute, second⟩ := length_dayParts inDay
  have millisecond : (padded 3 (microseconds % 1000000 / 1000)).length = 3 :=
    length_padded (by decide) (show _ < 1000 by omega)
  simp only [timeText_eq, List.length_append, List.length_cons, hour, minute, second, millisecond]

/-- Later milliseconds of a day have later texts. -/
theorem timeText_lt {s t : Nat} (lt : s / 1000 < t / 1000) (inDay : t < dayMicroseconds) :
    timeText true s < timeText true t := by
  unfold dayMicroseconds at inDay
  have first : s / 1000000 / 3600 < t / 1000000 / 3600 ∨ s / 1000000 / 3600 = t / 1000000 / 3600 ∧
      (s / 1000000 / 60 % 60 < t / 1000000 / 60 % 60 ∨
        s / 1000000 / 60 % 60 = t / 1000000 / 60 % 60 ∧
          (s / 1000000 % 60 < t / 1000000 % 60 ∨ s / 1000000 % 60 = t / 1000000 % 60 ∧
            s % 1000000 / 1000 < t % 1000000 / 1000)) := by
    omega
  rw [timeText_eq, timeText_eq]
  rcases first with hour | ⟨hour, minute | ⟨minute, second | ⟨second, millisecond⟩⟩⟩
  · exact padded_append_lt (by decide) hour (show _ < 100 by omega) _ _
  · rw [hour]
    apply append_cons_lt
    exact padded_append_lt (by decide) minute (show _ < 100 by omega) _ _
  · rw [hour, minute]
    apply append_cons_lt
    apply append_cons_lt
    exact padded_append_lt (by decide) second (show _ < 100 by omega) _ _
  · rw [hour, minute, second]
    apply append_cons_lt
    apply append_cons_lt
    apply append_cons_lt
    exact padded_lt_padded (by decide) millisecond (show _ < 1000 by omega)

/-! ### Stamps -/

namespace DateTime

/-- The instant lies in the years 1 to 9999 of universal time. -/
def InCalendar (t : DateTime) : Prop := 0 ≤ t.instant ∧ t.instant < calendarMicroseconds

/-- The reading has an offset, or lies after the first day of year 1. -/
def Located (t : DateTime) : Prop := t.offset ≠ none ∨ dayMicroseconds ≤ t.wall.1

/-- The same instant, read from a clock in universal time. -/
def utc (t : DateTime) (range : t.InCalendar) : DateTime :=
  ⟨⟨t.instant.toNat, (Int.toNat_lt range.1).2 range.2⟩, none⟩

/-- The fields of a reading, to the millisecond. -/
def stampFields (t : DateTime) : StampFields where
  date := t.date.civil
  hour := t.timeOfDay / 1000000 / 3600
  minute := t.timeOfDay / 1000000 / 60 % 60
  second := t.timeOfDay / 1000000 % 60
  millisecond := t.timeOfDay % 1000000 / 1000

/-- The stamp of a reading in universal time. -/
def stamp (t : DateTime) : List Char := t.date.isoText ++ 'T' :: (timeText true t.timeOfDay ++ ['Z'])

theorem wall_eq (t : DateTime) : t.wall.1 = t.date.day.1 * dayMicroseconds + t.timeOfDay :=
  (Nat.div_add_mod' t.wall.1 dayMicroseconds).symm

theorem timeOfDay_lt (t : DateTime) : t.timeOfDay < dayMicroseconds :=
  Nat.mod_lt _ (by decide)

theorem utcStamp_eq {t : DateTime} (range : t.InCalendar) (located : t.Located) :
    t.utcStamp = .ok (t.utc range).stamp := by
  have notFirst : ¬ (t.offset = none ∧ t.wall.1 < dayMicroseconds) := by
    rintro ⟨naive, early⟩
    rcases located with aware | late
    · exact aware naive
    · omega
  have bounds : 0 ≤ t.instant ∧ t.instant < calendarMicroseconds := range
  rw [utcStamp, if_neg notFirst, dif_pos bounds]
  simp only [styledText, stamp, utc, Option.map_none, Option.getD_none, List.append_nil,
    List.append_assoc, List.cons_append]

theorem stamp_eq_text (t : DateTime) : t.stamp = t.stampFields.text := by
  unfold stamp stampFields
  generalize shown : t.date.civil = c
  simp only [StampFields.text, Date.isoText_eq shown, timeText_eq, List.append_assoc, List.cons_append]

theorem length_stamp (t : DateTime) : t.stamp.length = 24 := by
  rw [stamp, List.length_append, List.length_cons, List.length_append, t.date.length_isoText,
    length_timeText t.timeOfDay_lt, List.length_singleton]

theorem stampFields_denotes (t : DateTime) : t.stampFields.Denotes (t.wall.1 / 1000 : Nat) := by
  have inDay := t.timeOfDay_lt
  have split := t.wall_eq
  unfold dayMicroseconds at inDay split
  refine ⟨?_, ?_, ?_, ?_, t.date, t.date.ofCivil?_civil, ?_⟩
  all_goals simp only [stampFields]
  all_goals omega

/-- Readings in later milliseconds have later stamps. -/
theorem stamp_lt {s t : DateTime} (lt : s.wall.1 / 1000 < t.wall.1 / 1000) : s.stamp < t.stamp := by
  have early := s.wall_eq
  have late := t.wall_eq
  have inDay := s.timeOfDay_lt
  have inDay' := t.timeOfDay_lt
  rcases Nat.lt_trichotomy s.date.day.1 t.date.day.1 with day | day | day
  · apply append_lt_append_of_lt
    · rw [s.date.length_isoText, t.date.length_isoText]
    · exact Date.isoText_lt day
  · have same : s.date = t.date := congrArg Date.mk (Fin.ext day)
    have time : s.timeOfDay / 1000 < t.timeOfDay / 1000 := by
      rw [early, late, day] at lt
      unfold dayMicroseconds at lt
      omega
    rw [stamp, stamp, same]
    apply append_cons_lt
    apply append_lt_append_of_lt
    · rw [length_timeText inDay, length_timeText inDay']
    · exact timeText_lt time inDay'
  · unfold dayMicroseconds at early late inDay inDay'
    omega

theorem stamp_eq {s t : DateTime} (same : s.wall.1 / 1000 = t.wall.1 / 1000) : s.stamp = t.stamp := by
  have early := s.wall_eq
  have late := t.wall_eq
  have inDay := s.timeOfDay_lt
  have inDay' := t.timeOfDay_lt
  unfold dayMicroseconds at early late inDay inDay'
  have day : s.date.day.1 = t.date.day.1 := by omega
  have date : s.date = t.date := congrArg Date.mk (Fin.ext day)
  rw [stamp, stamp, date, timeText_eq, timeText_eq]
  have hour : s.timeOfDay / 1000000 / 3600 = t.timeOfDay / 1000000 / 3600 := by omega
  have minute : s.timeOfDay / 1000000 / 60 % 60 = t.timeOfDay / 1000000 / 60 % 60 := by omega
  have second : s.timeOfDay / 1000000 % 60 = t.timeOfDay / 1000000 % 60 := by omega
  have millisecond : s.timeOfDay % 1000000 / 1000 = t.timeOfDay % 1000000 / 1000 := by omega
  rw [hour, minute, second, millisecond]

theorem stamp_le_iff {s t : DateTime} :
    String.ofList s.stamp ≤ String.ofList t.stamp ↔ s.wall.1 / 1000 ≤ t.wall.1 / 1000 := by
  rw [← String.not_lt, ← Nat.not_lt, String.lt_iff, String.toList_ofList, String.toList_ofList]
  refine not_congr ⟨fun later => ?_, stamp_lt⟩
  rcases Nat.lt_trichotomy (t.wall.1 / 1000) (s.wall.1 / 1000) with lt | same | gt
  · exact lt
  · rw [stamp_eq same] at later
    exact absurd later (List.lt_irrefl _)
  · exact absurd later (List.lt_asymm (stamp_lt gt))

theorem stamp_eq_iff {s t : DateTime} : s.stamp = t.stamp ↔ s.wall.1 / 1000 = t.wall.1 / 1000 := by
  constructor
  · intro same
    apply Nat.le_antisymm
    · exact stamp_le_iff.1 (same ▸ String.le_refl _)
    · exact stamp_le_iff.1 (same ▸ String.le_refl _)
  · exact stamp_eq

theorem utc_millisecond {t : DateTime} (range : t.InCalendar) :
    ((t.utc range).wall.1 / 1000 : Nat) = t.instant / 1000 := by
  change ((t.instant.toNat / 1000 : Nat) : Int) = t.instant / 1000
  have := range.1
  omega

/-- A located reading of the calendar has a stamp of 24 characters that denotes its instant, rounded
down to the millisecond; two such stamps are ordered as texts the way their milliseconds are. -/
theorem stamps_are_chronological {d e : DateTime} (inD : d.InCalendar) (inE : e.InCalendar)
    (locatedD : d.Located) (locatedE : e.Located) :
    ∃ f g : StampFields, d.utcStamp = .ok f.text ∧ e.utcStamp = .ok g.text ∧ f.text.length = 24 ∧
      f.Denotes (d.instant / 1000) ∧ g.Denotes (e.instant / 1000) ∧
      (String.ofList f.text ≤ String.ofList g.text ↔ d.instant / 1000 ≤ e.instant / 1000) ∧
      (f.text = g.text ↔ d.instant / 1000 = e.instant / 1000) := by
  refine ⟨(d.utc inD).stampFields, (e.utc inE).stampFields, ?_⟩
  rw [← stamp_eq_text, ← stamp_eq_text, ← utc_millisecond inD, ← utc_millisecond inE]
  refine ⟨utcStamp_eq inD locatedD, utcStamp_eq inE locatedE, length_stamp _,
    stampFields_denotes _, stampFields_denotes _, ?_, ?_⟩
  · rw [stamp_le_iff, Int.ofNat_le]
  · rw [stamp_eq_iff, Int.ofNat_inj]

/-- Half past eleven in the evening, west of universal time, is later than the midnight after it. -/
theorem stamps_are_chronological_new_year :
    let evening : DateTime :=
      ⟨⟨3651693 * dayMicroseconds + 84600000000, by decide⟩, some ⟨-3600000000, by decide⟩⟩
    let midnight : DateTime := ⟨⟨3651694 * dayMicroseconds, by decide⟩, none⟩
    ∃ f g : StampFields, evening.utcStamp = .ok f.text ∧ midnight.utcStamp = .ok g.text ∧
      f.text.length = 24 ∧ ¬ String.ofList f.text ≤ String.ofList g.text := by
  intro evening midnight
  obtain ⟨f, g, stampF, stampG, length, -, -, order, -⟩ := stamps_are_chronological
    (d := evening) (e := midnight) ⟨by decide, by decide⟩ ⟨by decide, by decide⟩
    (.inl (by decide)) (.inr (by decide))
  refine ⟨f, g, stampF, stampG, length, ?_⟩
  rw [order]
  decide

/-- A reading without an offset on the first day of year 1 has no stamp, though its instant has one
where the offset is given. -/
theorem first_day_has_no_stamp :
    let naive : DateTime := ⟨⟨43200000000, by decide⟩, none⟩
    let aware : DateTime := ⟨⟨43200000000, by decide⟩, some ⟨0, by decide⟩⟩
    naive.InCalendar ∧ naive.instant = aware.instant ∧ naive.utcStamp = .error .firstDay ∧
      aware.utcStamp = .ok "0001-01-01T12:00:00.000Z".toList :=
  ⟨⟨by decide, by decide⟩, rfl, rfl, rfl⟩

end DateTime

end EventTracker
