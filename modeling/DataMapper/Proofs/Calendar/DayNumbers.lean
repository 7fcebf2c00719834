import DataMapper.Calendar.Timestamp
import Mathlib.Tactic.IntervalCases

/-!
# Days by their numbers

Days are counted in eras of 400 years, whose years begin in March. A day comes back from its number:
first the year of its era, by taking away the leap days before it, then the day of that year, then
the month.

## Main statements

* `Date.ofDayNumber?_dayNumber` — a day comes back from its number.
-/

namespace DataMapper.Calendar

/-- The leap days before a day of an era are taken away before its years are counted. -/
theorem yearOfEra_eq {y doy doe : Int} (y0 : 0 ≤ y) (y1 : y < 400) (d0 : 0 ≤ doy) (d1 : doy ≤ 365)
    (leap : doy = 365 → (y + 1) % 4 = 0 ∧ ((y + 1) % 100 ≠ 0 ∨ (y + 1) % 400 = 0))
    (h : doe = y * 365 + y / 4 - y / 100 + doy) :
    (doe - doe / 1460 + doe / 36524 - doe / 146096) / 365 = y := by
  -- the century, the four years within it and the year of these
  obtain ⟨a, b, c, rfl, a0, a1, b0, b1, c0, c1⟩ : ∃ a b c : Int, y = 100 * a + 4 * b + c ∧
      0 ≤ a ∧ a ≤ 3 ∧ 0 ≤ b ∧ b ≤ 24 ∧ 0 ≤ c ∧ c ≤ 3 :=
    ⟨y / 100, y % 100 / 4, y % 4, by omega, by omega, by omega, by omega, by omega, by omega,
      by omega⟩
  have days : doe = 36524 * a + 1461 * b + 365 * c + doy := by omega
  have last : doy = 365 → c = 3 ∧ (b = 24 → a = 3) := by
    intro long
    have := leap long
    omega
  have centuries : doe / 36524 - doe / 146096 = a := by
    by_cases final : doe = 146096
    · omega
    · have whole : doe / 146096 = 0 := by omega
      omega
  have fours : doe / 1460 = 25 * a + b ∧ doy ≤ 364 ∨
      doe / 1460 = 25 * a + b + 1 ∧ 1 ≤ doy := by omega
  omega

theorem isLeapYear_iff {y : Int} :
    isLeapYear y = true ↔ y % 4 = 0 ∧ (y % 100 ≠ 0 ∨ y % 400 = 0) := by
  simp [isLeapYear]

namespace Date

/-- The months of a year that begins in March: the days before a month say which it is. -/
theorem dayOfYear_spec (d : Date) :
    ∃ m doy : Int, m = (d.month + 9) % 12 ∧ doy = (153 * m + 2) / 5 + d.day - 1 ∧
      (5 * doy + 2) / 153 = m ∧ 0 ≤ doy ∧ doy ≤ 365 ∧
      (doy = 365 → d.month = 2 ∧ isLeapYear d.year = true) := by
  obtain ⟨year, month, day, -, ⟨m1, m12⟩, ⟨d1, last⟩⟩ := d
  refine ⟨_, _, rfl, rfl, ?_⟩
  dsimp only at *
  interval_cases month <;> simp only [daysInMonth] at last
  case «2» =>
    split at last
    · next leap => exact ⟨by omega, by omega, by omega, fun _ => ⟨rfl, leap⟩⟩
    · exact ⟨by omega, by omega, by omega, by omega⟩
  all_goals exact ⟨by omega, by omega, by omega, by omega⟩

/-- A day comes back from its number. -/
theorem ofDayNumber?_dayNumber (d : Date) : ofDayNumber? d.dayNumber = some d := by
  obtain ⟨m, doy, hm, hdoy, month, d0, d365, long⟩ := d.dayOfYear_spec
  -- the year that begins in March
  obtain ⟨y, hy⟩ : ∃ y : Int, y = if d.month ≤ 2 then d.year - 1 else d.year := ⟨_, rfl⟩
  have leap : doy = 365 → (y + 1) % 4 = 0 ∧ ((y + 1) % 100 ≠ 0 ∨ (y + 1) % 400 = 0) := by
    intro last
    obtain ⟨february, leap⟩ := long last
    have same : y + 1 = d.year := by
      rw [hy, if_pos (by omega)]
      omega
    rw [same]
    exact isLeapYear_iff.1 leap
  obtain ⟨yoe, hyoe⟩ : ∃ yoe, yoe = y % 400 := ⟨_, rfl⟩
  obtain ⟨doe, hdoe⟩ : ∃ doe, doe = yoe * 365 + yoe / 4 - yoe / 100 + doy := ⟨_, rfl⟩
  have number : d.dayNumber = y / 400 * 146097 + doe - 719468 := by
    rw [dayNumber, ← hy, ← hm, hdoe, hdoy, hyoe]
  have years : (doe - doe / 1460 + doe / 36524 - doe / 146096) / 365 = yoe :=
    yearOfEra_eq (by omega) (by omega) d0 d365 (by omega) hdoe
  have era : (d.dayNumber + 719468) / 146097 = y / 400 := by omega
  have rest : (d.dayNumber + 719468) % 146097 = doe := by omega
  have day : doe - (365 * yoe + yoe / 4 - yoe / 100) = doy := by omega
  have first : doy - (153 * m + 2) / 5 + 1 = d.day := by omega
  have range := d.month_mem
  have named : (if m < 10 then m + 3 else m - 9) = d.month := by split <;> omega
  have year : yoe + y / 400 * 400 + (if (d.month : Int) ≤ 2 then 1 else 0) = d.year := by
    rw [hyoe]
    split <;> split at hy <;> omega
  simp only [ofDayNumber?, rest, era, years, day, month, first, named, year, Int.toNat_natCast]
  exact dif_pos ⟨d.year_mem, d.month_mem, d.day_mem⟩

/-- No day is further away than this. -/
theorem dayNumber_bounds (d : Date) : -97000000 ≤ d.dayNumber ∧ d.dayNumber ≤ 97000000 := by
  obtain ⟨m, doy, hm, hdoy, -, d0, d365, -⟩ := d.dayOfYear_spec
  obtain ⟨least, most⟩ := d.year_mem
  obtain ⟨y, hy⟩ : ∃ y : Int, y = if d.month ≤ 2 then d.year - 1 else d.year := ⟨_, rfl⟩
  have number : d.dayNumber = y / 400 * 146097 +
      (y % 400 * 365 + y % 400 / 4 - y % 400 / 100 + doy) - 719468 := by
    rw [dayNumber, ← hy, ← hm, hdoy]
  have years : -262144 ≤ y ∧ y ≤ 262142 := by
    simp only [minYear, maxYear] at least most
    split at hy <;> omega
  omega

end Date

end DataMapper.Calendar
