import DataMapper.Calendar.Timestamp

/-!
# The order of days and times

Days are in the order of their years, months and days of the month. The day after a day is the least
of those behind it, across the ends of months and years and in leap years, and every day but the
last one has one. Points in time are in the order of their days and, on one day, of the clock.

## Main definitions

* `Date.last` — the last day.

## Main statements

* `Date.lt_next?_iff` — what is before the day after.
* `Date.next?_eq_none_iff` — the last day is the one without a day after it.
* `Timestamp.midnight_le_iff`, `Timestamp.lt_midnight_iff` — points in time before and behind a
  midnight.
-/

namespace DataMapper.Calendar

namespace Date

/-- The first in which two days differ, of the year, the month and the day of the month, decides. -/
instance : LT Date where
  lt d e := d.year < e.year ∨ d.year = e.year ∧
    (d.month < e.month ∨ d.month = e.month ∧ d.day < e.day)

instance : LE Date := ⟨fun d e => ¬ e < d⟩

theorem lt_def {d e : Date} : d < e ↔ d.year < e.year ∨ d.year = e.year ∧
    (d.month < e.month ∨ d.month = e.month ∧ d.day < e.day) := Iff.rfl

theorem le_def {d e : Date} : d ≤ e ↔ ¬ e < d := Iff.rfl

instance (d e : Date) : Decidable (d < e) := decidable_of_iff _ lt_def.symm

instance (d e : Date) : Decidable (d ≤ e) := decidable_of_iff _ le_def.symm

/-- The last day that can be represented. -/
def last : Date := ⟨262142, 12, 31, by decide, by decide, by decide⟩

theorem le_last (d : Date) : d ≤ last := by
  have year := d.year_mem
  have month := d.month_mem
  have day := d.day_mem
  simp only [le_def, lt_def, last, maxYear] at *
  rintro (later | ⟨-, later | ⟨december, later⟩⟩)
  · omega
  · omega
  · rw [← december, daysInMonth] at day
    · omega
    all_goals simp

/-! ## The day after -/

theorem make?_eq_some_iff {year : Int} {month day : Nat} {d : Date} :
    make? year month day = some d ↔ d.year = year ∧ d.month = month ∧ d.day = day := by
  constructor
  · intro made
    unfold make? at made
    split at made
    · cases made
      exact ⟨rfl, rfl, rfl⟩
    · cases made
  · rintro ⟨rfl, rfl, rfl⟩
    exact dif_pos ⟨d.year_mem, d.month_mem, d.day_mem⟩

/-- What is known of the day after: it has the next number in its month, or it is the first one of
the next month or of the next year. -/
theorem next?_cases {d e : Date} (h : d.next? = some e) :
    d.day < daysInMonth d.year d.month ∧ e.year = d.year ∧ e.month = d.month ∧ e.day = d.day + 1 ∨
      d.day = daysInMonth d.year d.month ∧ e.day = 1 ∧
        (d.month < 12 ∧ e.year = d.year ∧ e.month = d.month + 1 ∨
          d.month = 12 ∧ e.year = d.year + 1 ∧ e.month = 1) := by
  have month := d.month_mem
  have day := d.day_mem
  unfold next? at h
  split at h
  · next within =>
    obtain ⟨sameYear, sameMonth, next⟩ := make?_eq_some_iff.1 h
    exact .inl ⟨within, sameYear, sameMonth, next⟩
  · next ends =>
    split at h
    · next before =>
      obtain ⟨sameYear, next, first⟩ := make?_eq_some_iff.1 h
      exact .inr ⟨by omega, first, .inl ⟨before, sameYear, next⟩⟩
    · next december =>
      obtain ⟨next, january, first⟩ := make?_eq_some_iff.1 h
      exact .inr ⟨by omega, first, .inr ⟨by omega, next, january⟩⟩

example : (⟨-1, 12, 31, by decide, by decide, by decide⟩ : Date).next? =
    some ⟨0, 1, 1, by decide, by decide, by decide⟩ := rfl

theorem one_le_daysInMonth (y : Int) (m : Nat) : 1 ≤ daysInMonth y m := by
  unfold daysInMonth
  split
  · split <;> decide
  all_goals decide

/-- Every day but the last one has a day after it. -/
theorem next?_eq_none_iff {d : Date} : d.next? = none ↔ d = last := by
  have made {year : Int} {month day : Nat} (fits : minYear ≤ year ∧ year ≤ maxYear)
      (range : 1 ≤ month ∧ month ≤ 12) (first : 1 ≤ day ∧ day ≤ daysInMonth year month) :
      make? year month day ≠ none := by
    have day := make?_eq_some_iff (d := ⟨year, month, day, fits, range, first⟩).2 ⟨rfl, rfl, rfl⟩
    rw [day]
    exact Option.some_ne_none _
  constructor
  · intro none
    obtain ⟨year, month, day, fits, range, inside⟩ := d
    unfold next? at none
    dsimp only at none
    split at none
    · next within => exact absurd none (made fits range ⟨by omega, by omega⟩)
    · next ends =>
      split at none
      · next before =>
        exact absurd none (made fits ⟨by omega, by omega⟩ ⟨Nat.le_refl 1, one_le_daysInMonth _ _⟩)
      · next december =>
        obtain rfl : month = 12 := by omega
        obtain rfl : day = 31 := by
          simp only [daysInMonth] at inside ends
          omega
        by_cases final : year = 262142
        · subst final
          rfl
        · simp only [minYear, maxYear] at fits
          refine absurd none (made ?_ ⟨by omega, by omega⟩ ⟨Nat.le_refl 1, one_le_daysInMonth _ _⟩)
          simp only [minYear, maxYear]
          omega
  · rintro rfl
    rfl

/-- The days before the day after are those up to the day. -/
theorem lt_next?_iff {d e x : Date} (h : d.next? = some e) : x < e ↔ x ≤ d := by
  have month := x.month_mem
  have day := x.day_mem
  rw [le_def, lt_def, lt_def]
  rcases next?_cases h with
    ⟨-, year, same, next⟩ | ⟨ends, first, ⟨-, year, next⟩ | ⟨december, year, january⟩⟩
  · omega
  · by_cases here : x.year = d.year ∧ x.month = d.month
    · rw [here.1, here.2] at day
      omega
    · omega
  · have := d.month_mem
    by_cases here : x.year = d.year ∧ x.month = d.month
    · rw [here.1, here.2] at day
      omega
    · omega

end Date

namespace TimeOfDay

/-- The first in which two times differ, of the hour, the minute, the second and the nanoseconds,
decides. Leap seconds are behind the second that they follow. -/
instance : LT TimeOfDay where
  lt t u := t.hour < u.hour ∨ t.hour = u.hour ∧ (t.minute < u.minute ∨ t.minute = u.minute ∧
    (t.second < u.second ∨ t.second = u.second ∧ t.nano < u.nano))

theorem lt_def {t u : TimeOfDay} : t < u ↔ t.hour < u.hour ∨ t.hour = u.hour ∧
    (t.minute < u.minute ∨ t.minute = u.minute ∧
      (t.second < u.second ∨ t.second = u.second ∧ t.nano < u.nano)) := Iff.rfl

instance (t u : TimeOfDay) : Decidable (t < u) := decidable_of_iff _ lt_def.symm

/-- No time of day is before midnight. -/
theorem not_lt_midnight (t : TimeOfDay) : ¬ t < midnight := by
  simp only [lt_def, midnight]
  omega

end TimeOfDay

namespace Timestamp

/-- The earlier day or, on one day, the earlier time. -/
instance : LT Timestamp where
  lt t u := t.date < u.date ∨ t.date = u.date ∧ t.time < u.time

instance : LE Timestamp := ⟨fun t u => ¬ u < t⟩

theorem lt_def {t u : Timestamp} : t < u ↔ t.date < u.date ∨ t.date = u.date ∧ t.time < u.time :=
  Iff.rfl

theorem le_def {t u : Timestamp} : t ≤ u ↔ ¬ u < t := Iff.rfl

instance (t u : Timestamp) : Decidable (t < u) := decidable_of_iff _ lt_def.symm

instance (t u : Timestamp) : Decidable (t ≤ u) := decidable_of_iff _ le_def.symm

/-- Before the midnight that a day begins with are the points in time of the days before. -/
theorem lt_midnight_iff {t : Timestamp} {d : Date} : t < midnight d ↔ t.date < d := by
  rw [lt_def]
  refine ⟨?_, .inl⟩
  rintro (before | ⟨-, before⟩)
  · exact before
  · exact absurd before t.time.not_lt_midnight

/-- A day begins with its midnight. -/
theorem midnight_le_iff {t : Timestamp} {d : Date} : midnight d ≤ t ↔ d ≤ t.date := by
  rw [le_def, lt_midnight_iff, Date.le_def]

end Timestamp

end DataMapper.Calendar
