import DataMapper.Calendar.Timestamp
import DataMapper.Text.Blank

/-!
# Reading days and times

Every number of a day or a time may stand after blanks and without leading zeros. A reader returns
what it has read with the rest of the text; `whole` asks for a text without rest.

## Main definitions

* `readDate`, `readTime`, `readTimestamp` — the forms `2024-02-29`, `12:34:56.5` and both with
  blanks or a `T` between them.
* `readInternet` — the strict form with an offset, `2024-02-29T12:34:56.5+01:00`.
-/

namespace DataMapper.Calendar

open Text Number

/-- The value that takes the whole text. -/
def whole {α : Type} : Option (α × List Char) → Option α
  | some (a, []) => some a
  | _ => none

def readLiteral (c : Char) : List Char → Option (List Char)
  | d :: cs => if d = c then some cs else none
  | [] => none

/-- At least `least` and at most `most` digits. -/
def readNumber (least most : Nat) (cs : List Char) : Option (Nat × List Char) :=
  let ds := (cs.take most).takeWhile Char.isDigit
  if ds.isEmpty || ds.length < least then none else some (digitsValue 0 ds, cs.drop ds.length)

/-- A number of at most two digits after blanks. -/
def readField (cs : List Char) : Option (Nat × List Char) :=
  readNumber 1 2 (trimLeft cs)

/-- A year after blanks: with a sign it may have any number of digits, else at most four. -/
def readYear (cs : List Char) : Option (Int × List Char) :=
  match trimLeft cs with
  | '-' :: cs => (readNumber 1 cs.length cs).map fun (n, rest) => (-(n : Int), rest)
  | '+' :: cs => (readNumber 1 cs.length cs).map fun (n, rest) => ((n : Int), rest)
  | cs => (readNumber 1 4 cs).map fun (n, rest) => ((n : Int), rest)

/-- A point and digits: the nanoseconds that they stand for, from the first nine of them. Nothing
where there is no point. -/
def readFraction : List Char → Option (Nat × List Char)
  | '.' :: cs =>
    let ds := cs.takeWhile Char.isDigit
    let kept := ds.take 9
    if ds.isEmpty then none
    else some (digitsValue 0 kept * 10 ^ (9 - kept.length), cs.drop ds.length)
  | cs => some (0, cs)

def readDatePart (cs : List Char) : Option (Date × List Char) := do
  let (year, cs) ← readYear cs
  let (month, cs) ← readField (← readLiteral '-' cs)
  let (day, cs) ← readField (← readLiteral '-' cs)
  return (← Date.make? year month day, cs)

def readTimePart (cs : List Char) : Option (TimeOfDay × List Char) := do
  let (hour, cs) ← readField cs
  let (minute, cs) ← readField (← readLiteral ':' cs)
  let (second, cs) ← readField (← readLiteral ':' cs)
  let (nano, cs) ← readFraction cs
  return (← TimeOfDay.ofClock? hour minute second nano, cs)

def readDate (cs : List Char) : Option Date := whole (readDatePart cs)

def readTime (cs : List Char) : Option TimeOfDay := whole (readTimePart cs)

/-- A day and a time, joined by blanks, by nothing, or by a `T`. -/
def readTimestamp (cs : List Char) : Option Timestamp := do
  let (date, cs) ← readDatePart cs
  let time ← match cs with
    | 'T' :: cs => readTime cs
    | cs => readTime cs
  return ⟨date, time⟩

/-- A distance to universal time in minutes: `Z`, or a sign, two digits, a colon and two digits. -/
def readOffset (cs : List Char) : Option (Int × List Char) :=
  match cs with
  | 'Z' :: cs | 'z' :: cs => some (0, cs)
  | sign :: cs =>
    if sign = '+' ∨ sign = '-' ∨ sign = '\u2212' then do
      let (hours, cs) ← readNumber 2 2 cs
      let (minutes, cs) ← readNumber 2 2 (← readLiteral ':' cs)
      if hours ≤ 23 ∧ minutes ≤ 59 then
        let m : Int := hours * 60 + minutes
        return (if sign = '+' then m else -m, cs)
      else none
    else none
  | [] => none

/-- The strict form with an offset: every number with all its digits, and `T`, `t` or a blank
between the day and the time. -/
def readInternet (cs : List Char) : Option OffsetTimestamp := do
  let (year, cs) ← readNumber 4 4 cs
  let (month, cs) ← readNumber 2 2 (← readLiteral '-' cs)
  let (day, cs) ← readNumber 2 2 (← readLiteral '-' cs)
  let cs ← match cs with
    | 'T' :: cs | 't' :: cs | ' ' :: cs => some cs
    | _ => none
  let (hour, cs) ← readNumber 2 2 cs
  let (minute, cs) ← readNumber 2 2 (← readLiteral ':' cs)
  let (second, cs) ← readNumber 2 2 (← readLiteral ':' cs)
  let (nano, cs) ← readFraction cs
  let ahead ← whole (readOffset cs)
  let date ← Date.make? year month day
  let time ← TimeOfDay.ofClock? hour minute second nano
  return ⟨⟨date, time⟩, ahead⟩

end DataMapper.Calendar
