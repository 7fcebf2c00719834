import DataMapper.Calendar.Date
import DataMapper.Calendar.TimeOfDay

/-!
# Points in time

A day with a time of day, and the same on a clock with a known distance to universal time. Each of
them belongs to a calendar day, a local clock to the one that it shows.
-/

namespace DataMapper.Calendar

structure Timestamp where
  date : Date
  time : TimeOfDay
  deriving DecidableEq, Inhabited

namespace Timestamp

def midnight (d : Date) : Timestamp := ⟨d, .midnight⟩

/-- The day and the time with `separator` between them. -/
def chars (separator : Char) (t : Timestamp) : List Char :=
  t.date.chars ++ separator :: t.time.chars

def text (t : Timestamp) : String := String.ofList (t.chars ' ')

/-- The point in time that is a number of minutes earlier; seconds stay as they are. -/
def minusMinutes? (t : Timestamp) (minutes : Int) : Option Timestamp :=
  let m := t.date.dayNumber * 1440 + t.time.minuteOfDay - minutes
  let ofDay := (m % 1440).toNat
  do
    let date ← Date.ofDayNumber? (m / 1440)
    let time ← TimeOfDay.make? (ofDay / 60) (ofDay % 60) t.time.second t.time.nano
    return ⟨date, time⟩

end Timestamp

/-- A point in time as a local clock shows it, with the minutes that this clock is ahead of
universal time. -/
structure OffsetTimestamp where
  wall : Timestamp
  ahead : Int
  deriving DecidableEq, Inhabited

/-- The same point in time on the clock of universal time. -/
def OffsetTimestamp.utc? (t : OffsetTimestamp) : Option Timestamp :=
  t.wall.minusMinutes? t.ahead

/-- What belongs to a calendar day. -/
class CalendarDay (α : Type) where
  day : α → Date

instance : CalendarDay Date := ⟨id⟩

instance : CalendarDay Timestamp := ⟨Timestamp.date⟩

instance : CalendarDay OffsetTimestamp := ⟨fun t => t.wall.date⟩

end DataMapper.Calendar
