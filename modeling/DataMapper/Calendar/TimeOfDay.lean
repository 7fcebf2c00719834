import DataMapper.Number.Decimal

/-!
# Times of day

Hour, minute and second with nanoseconds. A leap second has the numbers of the second before it and
a thousand million nanoseconds or more. It may stand behind any second of a minute, though a clock
shows a number of its own for it, 60, only behind the last one.
-/

namespace DataMapper.Calendar

open Number

/-- Nanoseconds in a second. -/
def secondNanos : Nat := 1000000000

structure TimeOfDay where
  hour : Nat
  minute : Nat
  second : Nat
  nano : Nat
  hour_lt : hour < 24
  minute_lt : minute < 60
  second_lt : second < 60
  nano_lt : nano < 2 * secondNanos
  deriving DecidableEq

namespace TimeOfDay

/-- The time with these numbers, if there is one. -/
def make? (hour minute second nano : Nat) : Option TimeOfDay :=
  if h : hour < 24 ∧ minute < 60 ∧ second < 60 ∧ nano < 2 * secondNanos then
    some ⟨hour, minute, second, nano, h.1, h.2.1, h.2.2.1, h.2.2.2⟩
  else none

def midnight : TimeOfDay :=
  ⟨0, 0, 0, 0, by decide, by decide, by decide, by decide⟩

instance : Inhabited TimeOfDay := ⟨midnight⟩

/-- The time with these numbers, where second 60 is a leap second. -/
def ofClock? (hour minute second nano : Nat) : Option TimeOfDay :=
  if secondNanos ≤ nano then none
  else if second = 60 then make? hour minute 59 (secondNanos + nano)
  else make? hour minute second nano

/-- The second that a clock shows: the next one in a leap second. -/
def clockSecond (t : TimeOfDay) : Nat := t.second + t.nano / secondNanos

def clockChars (t : TimeOfDay) : List Char :=
  Decimal.paddedDigits 2 t.hour ++ ':' :: Decimal.paddedDigits 2 t.minute ++
    ':' :: Decimal.paddedDigits 2 t.clockSecond

/-- The nanoseconds within the second with no, three, six or nine places, the fewest that keep
them all. -/
def fractionChars (nanos : Nat) : List Char :=
  if nanos = 0 then []
  else if nanos % 1000000 = 0 then '.' :: Decimal.paddedDigits 3 (nanos / 1000000)
  else if nanos % 1000 = 0 then '.' :: Decimal.paddedDigits 6 (nanos / 1000)
  else '.' :: Decimal.paddedDigits 9 nanos

def chars (t : TimeOfDay) : List Char :=
  t.clockChars ++ fractionChars (t.nano % secondNanos)

def text (t : TimeOfDay) : String := String.ofList t.chars

def minuteOfDay (t : TimeOfDay) : Nat := t.hour * 60 + t.minute

end TimeOfDay

end DataMapper.Calendar
