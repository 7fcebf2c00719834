import DataMapper.Calendar.Reading
import DataMapper.Proofs.Calendar.DayNumbers
import DataMapper.Proofs.Number.Digits

/-!
# Days and times read back from their texts

A number that is filled with zeros up to a length is read back by a reader of that many digits, and
a number of any length up to the text behind it. Days, times of day and points in time are read back
from their texts number by number: years with a sign and more than four digits, leap seconds as
second 60, and fractions of three, six or nine places. With a distance to universal time a point in
time is read back in the years of four digits only. A leap second within a minute is lost: its text
is that of the second behind it.

## Main definitions

* `TimeOfDay.shown`, `Timestamp.shown` — the time that a text tells.
* `TimeOfDay.LeapIsLast` — the times that are the same as their texts tell.

## Main statements

* `readNumber_append`, `readNumber_paddedDigits` — numbers with a text behind them.
* `readDate_chars`, `readTime_chars`, `Timestamp.readTimestamp_chars_append` — days, times of day
  and points in time.
* `Timestamp.readInternet_chars`, `Timestamp.readInternet_chars_eq_none` — points in time with their
  distance to universal time.
-/

namespace DataMapper.Calendar

open Number Text

/-! ## Numbers -/

/-- Digits are read up to the text behind them, or as many of them as may be. -/
theorem readNumber_append {least most : Nat} {ds rest : List Char}
    (digits : ∀ c ∈ ds, c.isDigit = true) (present : ds ≠ []) (enough : least ≤ ds.length)
    (room : ds.length ≤ most)
    (ends : ds.length = most ∨ ∀ c ∈ rest.head?, c.isDigit = false) :
    readNumber least most (ds ++ rest) = some (digitsValue 0 ds, rest) := by
  have behind : ∀ c ∈ (rest.take (most - ds.length)).head?, c.isDigit = false := by
    intro c first
    rw [List.head?_take] at first
    split at first
    · cases first
    · next more => exact ends.resolve_left (by omega) c first
  have taken : ((ds ++ rest).take most).takeWhile Char.isDigit = ds := by
    rw [List.take_append, List.take_of_length_le room, takeWhile_isDigit digits behind]
  simp only [readNumber, taken]
  rw [if_neg (by simpa [present] using enough), List.drop_left]

/-- A number in the digits that it is given is read back. -/
theorem readNumber_paddedDigits {least length n : Nat} (some : 0 < length) (enough : least ≤ length)
    (fits : n < 10 ^ length) (rest : List Char) :
    readNumber least length (Decimal.paddedDigits length n ++ rest) = .some (n, rest) := by
  have full := length_paddedDigits some fits
  have present : Decimal.paddedDigits length n ≠ [] := List.ne_nil_of_length_pos (by omega)
  rw [readNumber_append (fun _ => isDigit_of_mem_paddedDigits) present (by omega) (by omega)
    (.inl full), digitsValue_paddedDigits]

theorem trimLeft_of_head {cs : List Char} (solid : ∀ c ∈ cs.head?, isBlank c = false) :
    trimLeft cs = cs := by
  cases cs with
  | nil => rfl
  | cons c cs => simp [trimLeft, solid c rfl]

/-- A text that a number begins begins with a digit. -/
theorem isDigit_of_head?_paddedDigits {length n : Nat} {rest : List Char} {c : Char}
    (h : c ∈ (Decimal.paddedDigits length n ++ rest).head?) : c.isDigit = true := by
  obtain ⟨d, ds, same⟩ := List.exists_cons_of_ne_nil (paddedDigits_ne_nil length n)
  rw [same] at h
  obtain rfl : d = c := by simpa using h
  exact isDigit_of_mem_paddedDigits (same ▸ List.mem_cons_self)

theorem trimLeft_paddedDigits (length n : Nat) (rest : List Char) :
    trimLeft (Decimal.paddedDigits length n ++ rest) = Decimal.paddedDigits length n ++ rest :=
  trimLeft_of_head fun _ first => isBlank_of_isDigit (isDigit_of_head?_paddedDigits first)

theorem readField_paddedDigits {n : Nat} (fits : n < 100) (rest : List Char) :
    readField (Decimal.paddedDigits 2 n ++ rest) = some (n, rest) := by
  rw [readField, trimLeft_paddedDigits,
    readNumber_paddedDigits (by decide) (by decide) (by omega)]

theorem readField_cons_blank {c : Char} (blank : isBlank c = true) (cs : List Char) :
    readField (c :: cs) = readField cs := by
  simp [readField, trimLeft, blank]

/-! ## Days -/

theorem readYear_minus (cs : List Char) : readYear ('-' :: cs) =
    (readNumber 1 cs.length cs).map fun (n, rest) => (-(n : Int), rest) := rfl

theorem readYear_plus (cs : List Char) : readYear ('+' :: cs) =
    (readNumber 1 cs.length cs).map fun (n, rest) => ((n : Int), rest) := rfl

theorem readYear_of_isDigit {cs : List Char} (digit : ∀ c ∈ cs.head?, c.isDigit = true) :
    readYear cs = (readNumber 1 4 cs).map fun (n, rest) => ((n : Int), rest) := by
  rw [readYear, trimLeft_of_head fun c first => isBlank_of_isDigit (digit c first)]
  split
  · next minus => cases digit '-' rfl
  · next plus => cases digit '+' rfl
  · rfl

namespace Date

theorem readYear_yearChars (y : Int) {rest : List Char}
    (ends : ∀ c ∈ rest.head?, c.isDigit = false) :
    readYear (yearChars y ++ rest) = some (y, rest) := by
  have signed (n : Nat) : readNumber 1 (Decimal.paddedDigits 4 n ++ rest).length
      (Decimal.paddedDigits 4 n ++ rest) = some (n, rest) := by
    have long := le_length_paddedDigits 4 n
    rw [readNumber_append (fun _ => isDigit_of_mem_paddedDigits) (paddedDigits_ne_nil 4 n)
      (by omega) (by simp) (.inr ends), digitsValue_paddedDigits]
  unfold yearChars
  split
  · next short =>
    rw [readYear_of_isDigit fun _ => isDigit_of_head?_paddedDigits,
      readNumber_paddedDigits (by decide) (by decide) (by omega), Option.map_some]
    simp only [Int.toNat_of_nonneg short.1]
  · next long =>
    split
    · next negative =>
      have size : -(y.natAbs : Int) = y := by omega
      rw [List.cons_append, readYear_minus, signed, Option.map_some]
      simp only [size]
    · next positive =>
      have size : (y.natAbs : Int) = y := by omega
      rw [List.cons_append, readYear_plus, signed, Option.map_some]
      simp only [size]

theorem make?_self (d : Date) : make? d.year d.month d.day = some d :=
  dif_pos ⟨d.year_mem, d.month_mem, d.day_mem⟩

theorem day_le (d : Date) : d.day ≤ 31 := by
  have most : daysInMonth d.year d.month ≤ 31 := by
    unfold daysInMonth
    split <;> (try split) <;> decide
  exact d.day_mem.2.trans most

theorem readDatePart_chars (d : Date) (rest : List Char) :
    readDatePart (d.chars ++ rest) = some (d, rest) := by
  have month := d.month_mem
  have day := d.day_le
  have text : d.chars ++ rest = yearChars d.year ++ '-' :: (Decimal.paddedDigits 2 d.month ++
      '-' :: (Decimal.paddedDigits 2 d.day ++ rest)) := by
    simp [chars]
  rw [readDatePart, text, readYear_yearChars d.year (by simp)]
  simp only [bind, Option.bind, readLiteral, if_true,
    readField_paddedDigits (show d.month < 100 by omega),
    readField_paddedDigits (show d.day < 100 by omega), make?_self]
  rfl

end Date

theorem readDate_chars (d : Date) : readDate d.chars = some d := by
  have read := d.readDatePart_chars []
  rw [List.append_nil] at read
  rw [readDate, read, whole]

/-! ## Times of day -/

theorem readFraction_fractionChars {nanos : Nat} (fits : nanos < secondNanos) {rest : List Char}
    (ends : ∀ c ∈ rest.head?, c.isDigit = false ∧ c ≠ '.') :
    readFraction (TimeOfDay.fractionChars nanos ++ rest) = some (nanos, rest) := by
  -- nothing but zeros is left out behind the places that are written
  have places (length n : Nat) (some : 0 < length) (room : length ≤ 9) (small : n < 10 ^ length)
      (whole : n * 10 ^ (9 - length) = nanos) :
      readFraction ('.' :: Decimal.paddedDigits length n ++ rest) = .some (nanos, rest) := by
    have full := length_paddedDigits some small
    have taken : (Decimal.paddedDigits length n ++ rest).takeWhile Char.isDigit =
        Decimal.paddedDigits length n :=
      takeWhile_isDigit (fun _ => isDigit_of_mem_paddedDigits) fun c first => (ends c first).1
    simp only [List.cons_append, readFraction, taken]
    rw [if_neg (by simp [paddedDigits_ne_nil]), List.take_of_length_le (by omega),
      digitsValue_paddedDigits, List.drop_left, full, whole]
  unfold secondNanos at fits
  unfold TimeOfDay.fractionChars
  split
  · next none =>
    subst none
    cases rest with
    | nil => rfl
    | cons c rest =>
      rw [List.nil_append, readFraction]
      rintro cs ⟨⟩
      exact (ends '.' rfl).2 rfl
  split
  · next milli => exact places 3 _ (by decide) (by decide) (by omega) (by omega)
  split
  · next micro => exact places 6 _ (by decide) (by decide) (by omega) (by omega)
  · next => exact places 9 _ (by decide) (by decide) (by omega) (by omega)

namespace TimeOfDay

theorem make?_self (t : TimeOfDay) : make? t.hour t.minute t.second t.nano = some t :=
  dif_pos ⟨t.hour_lt, t.minute_lt, t.second_lt, t.nano_lt⟩

/-- A leap second stands behind the last second of its minute only. -/
def LeapIsLast (t : TimeOfDay) : Prop := secondNanos ≤ t.nano → t.second = 59

/-- The time that a clock tells. A leap second within a minute has the number of the second behind
it, and cannot be told from that. -/
def shown (t : TimeOfDay) : TimeOfDay :=
  if within : secondNanos ≤ t.nano ∧ t.second < 59 then
    { t with
      second := t.second + 1
      nano := t.nano - secondNanos
      second_lt := Nat.succ_lt_succ within.2
      nano_lt := (Nat.sub_le _ _).trans_lt t.nano_lt }
  else t

theorem shown_eq_iff {t : TimeOfDay} : t.shown = t ↔ t.LeapIsLast := by
  unfold shown LeapIsLast
  split
  · next within =>
    refine iff_of_false (fun same => ?_) fun last => ?_
    · have second : t.second + 1 = t.second := congrArg TimeOfDay.second same
      omega
    · have := last within.1
      omega
  · next outside =>
    have second := t.second_lt
    exact iff_of_true rfl (by omega)

/-- Outside of leap seconds a clock shows the numbers of the time, in them the next second. -/
theorem clockSecond_cases (t : TimeOfDay) :
    (t.nano < secondNanos ∧ t.clockSecond = t.second ∧ t.nano % secondNanos = t.nano) ∨
      (secondNanos ≤ t.nano ∧ t.clockSecond = t.second + 1 ∧
        t.nano % secondNanos = t.nano - secondNanos) := by
  have nano := t.nano_lt
  unfold clockSecond
  unfold secondNanos at *
  omega

theorem clockSecond_lt (t : TimeOfDay) : t.clockSecond < 100 := by
  have second := t.second_lt
  have shows := t.clockSecond_cases
  omega

/-- A clock shows a leap second at the end of a minute as second 60. -/
theorem ofClock?_clockSecond (t : TimeOfDay) :
    ofClock? t.hour t.minute t.clockSecond (t.nano % secondNanos) = some t.shown := by
  have second := t.second_lt
  have nano := t.nano_lt
  have fraction : t.nano % secondNanos < secondNanos := Nat.mod_lt _ (by decide)
  rw [ofClock?, if_neg (Nat.not_le.2 fraction)]
  rcases t.clockSecond_cases with ⟨plain, same, rest⟩ | ⟨leap, next, rest⟩
  · have told : t.shown = t := shown_eq_iff.2 fun long => absurd plain (Nat.not_lt.2 long)
    rw [same, if_neg (by omega), rest, told]
    exact t.make?_self
  · by_cases last : t.second = 59
    · have told : t.shown = t := shown_eq_iff.2 fun _ => last
      rw [if_pos (by omega), rest, Nat.add_sub_cancel' leap, ← last, told]
      exact t.make?_self
    · rw [if_neg (by omega), next, rest, shown, dif_pos ⟨leap, by omega⟩]
      exact dif_pos ⟨t.hour_lt, t.minute_lt, by omega, by omega⟩

theorem readTimePart_chars (t : TimeOfDay) {rest : List Char}
    (ends : ∀ c ∈ rest.head?, c.isDigit = false ∧ c ≠ '.') :
    readTimePart (t.chars ++ rest) = some (t.shown, rest) := by
  have hour := t.hour_lt
  have minute := t.minute_lt
  have second := t.clockSecond_lt
  have text : t.chars ++ rest = Decimal.paddedDigits 2 t.hour ++ ':' ::
      (Decimal.paddedDigits 2 t.minute ++ ':' :: (Decimal.paddedDigits 2 t.clockSecond ++
        (fractionChars (t.nano % secondNanos) ++ rest))) := by
    simp [chars, clockChars]
  rw [readTimePart, text]
  simp only [bind, Option.bind, readLiteral, if_true,
    readField_paddedDigits (show t.hour < 100 by omega),
    readField_paddedDigits (show t.minute < 100 by omega), readField_paddedDigits second,
    readFraction_fractionChars (Nat.mod_lt _ (by decide)) ends, ofClock?_clockSecond]
  rfl

end TimeOfDay

theorem readTime_chars (t : TimeOfDay) : readTime t.chars = some t.shown := by
  have read : readTimePart (t.chars ++ []) = some (t.shown, []) := t.readTimePart_chars (by simp)
  rw [List.append_nil] at read
  rw [readTime, read, whole]

/-! ## Points in time -/

namespace Timestamp

/-- The point in time that its day and a clock tell. -/
def shown (t : Timestamp) : Timestamp := ⟨t.date, t.time.shown⟩

theorem shown_eq_iff {t : Timestamp} : t.shown = t ↔ t.time.LeapIsLast := by
  rw [← TimeOfDay.shown_eq_iff]
  refine ⟨congrArg Timestamp.time, fun same => ?_⟩
  rw [shown, same]

theorem readTimePart_blank (cs : List Char) : readTimePart (' ' :: cs) = readTimePart cs := by
  rw [readTimePart, readField_cons_blank rfl]
  rfl

/-- Nothing may stand behind the time. -/
theorem readTimestamp_chars_append (t : Timestamp) {rest : List Char}
    (ends : ∀ c ∈ rest.head?, c.isDigit = false ∧ c ≠ '.') :
    readTimestamp (t.chars ' ' ++ rest) = if rest = [] then some t.shown else none := by
  have text : t.chars ' ' ++ rest = t.date.chars ++ ' ' :: (t.time.chars ++ rest) := by
    simp [chars]
  have time : readTime (' ' :: (t.time.chars ++ rest)) =
      if rest = [] then some t.time.shown else none := by
    rw [readTime, readTimePart_blank, t.time.readTimePart_chars ends]
    cases rest <;> rfl
  rw [readTimestamp, text, t.date.readDatePart_chars]
  change (readTime (' ' :: (t.time.chars ++ rest))).bind
    (fun time => some (⟨t.date, time⟩ : Timestamp)) = _
  rw [time]
  split <;> rfl

/-- The clock of universal time is no minutes ahead. -/
theorem minusMinutes?_zero (t : Timestamp) : t.minusMinutes? 0 = some t := by
  have hour := t.time.hour_lt
  have minute := t.time.minute_lt
  have day : (t.date.dayNumber * 1440 + t.time.minuteOfDay - 0) / 1440 = t.date.dayNumber := by
    unfold TimeOfDay.minuteOfDay
    omega
  have clock : ((t.date.dayNumber * 1440 + t.time.minuteOfDay - 0) % 1440).toNat =
      t.time.hour * 60 + t.time.minute := by
    unfold TimeOfDay.minuteOfDay
    omega
  have hours : (t.time.hour * 60 + t.time.minute) / 60 = t.time.hour := by omega
  have minutes : (t.time.hour * 60 + t.time.minute) % 60 = t.time.minute := by omega
  simp only [minusMinutes?, day, clock, hours, minutes, Date.ofDayNumber?_dayNumber,
    t.time.make?_self]
  rfl

/-- A point in time in a year of four digits is read back with its distance to universal time. -/
theorem readInternet_chars (t : Timestamp) (short : 0 ≤ t.date.year ∧ t.date.year ≤ 9999) :
    readInternet (t.chars ' ' ++ "+00:00".toList) = some ⟨t.shown, 0⟩ := by
  have month := t.date.month_mem
  have day := t.date.day_le
  have hour := t.time.hour_lt
  have minute := t.time.minute_lt
  have second := t.time.clockSecond_lt
  have text : t.chars ' ' ++ "+00:00".toList = Decimal.paddedDigits 4 t.date.year.toNat ++ '-' ::
      (Decimal.paddedDigits 2 t.date.month ++ '-' :: (Decimal.paddedDigits 2 t.date.day ++ ' ' ::
      (Decimal.paddedDigits 2 t.time.hour ++ ':' :: (Decimal.paddedDigits 2 t.time.minute ++ ':' ::
      (Decimal.paddedDigits 2 t.time.clockSecond ++
        (TimeOfDay.fractionChars (t.time.nano % secondNanos) ++ "+00:00".toList)))))) := by
    simp [chars, Date.chars, Date.yearChars, short, TimeOfDay.chars, TimeOfDay.clockChars]
  have two {n : Nat} (fits : n < 100) (rest : List Char) :
      readNumber 2 2 (Decimal.paddedDigits 2 n ++ rest) = some (n, rest) :=
    readNumber_paddedDigits (by decide) (by decide) (by omega) rest
  have four (rest : List Char) : readNumber 4 4 (Decimal.paddedDigits 4 t.date.year.toNat ++ rest) =
      some (t.date.year.toNat, rest) :=
    readNumber_paddedDigits (by decide) (by decide) (by omega) rest
  have offset : readOffset "+00:00".toList = some (0, []) := by decide
  rw [readInternet, text]
  have ends : ∀ c ∈ "+00:00".toList.head?, c.isDigit = false ∧ c ≠ '.' := by simp
  simp only [bind, Option.bind, readLiteral, if_true, four, two (show t.date.month < 100 by omega),
    two (show t.date.day < 100 by omega), two (show t.time.hour < 100 by omega),
    two (show t.time.minute < 100 by omega), two second,
    readFraction_fractionChars (Nat.mod_lt _ (by decide)) ends, offset, whole,
    Int.toNat_of_nonneg short.1, Date.make?_self, TimeOfDay.ofClock?_clockSecond]
  rfl

theorem readInternet_chars_eq_none (t : Timestamp) (long : ¬ (0 ≤ t.date.year ∧ t.date.year ≤ 9999))
    (rest : List Char) : readInternet (t.chars ' ' ++ rest) = none := by
  have sign : ∃ c cs, t.chars ' ' ++ rest = c :: cs ∧ c.isDigit = false := by
    simp only [chars, Date.chars, Date.yearChars, if_neg long]
    split
    · exact ⟨_, _, rfl, rfl⟩
    · exact ⟨_, _, rfl, rfl⟩
  obtain ⟨c, cs, text, sign⟩ := sign
  have none : readNumber 4 4 (c :: cs) = none := by simp [readNumber, sign]
  rw [readInternet, text, none]
  rfl

end Timestamp

end DataMapper.Calendar
