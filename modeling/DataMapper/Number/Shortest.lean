import DataMapper.Number.Binary

/-!
# Shortest decimal text

The decimal with the fewest digits among those that round to a given binary number, and of these
the one nearest to it; a tie goes away from zero. Where the point stands and when a power of ten
is written out is for a `Layout` to say.
-/

namespace DataMapper.Number

/-- A decimal `0.d₁d₂… · 10^point`. -/
structure Digits where
  digits : List Char
  point : Int
  deriving DecidableEq, Repr

/-- The power of ten at or below a positive quotient. -/
def floorLog10 (num den : Nat) : Int :=
  let atMost (k : Int) : Bool :=
    if 0 ≤ k then den * 10 ^ k.toNat ≤ num else den ≤ num * 10 ^ (-k).toNat
  let k := floorLog2 num den * 30103 / 100000
  if !atMost k then k - 1 else if atMost (k + 1) then k + 1 else k

/-- The quotients that round to a number, with the number between them; the ends belong to them
when `closed`. All are over the same denominator. -/
structure Interval where
  low : Nat
  value : Nat
  high : Nat
  den : Nat
  closed : Bool

def Interval.contains (i : Interval) (num den : Nat) : Bool :=
  let n := num * i.den
  if i.closed then i.low * den ≤ n && n ≤ i.high * den else i.low * den < n && n < i.high * den

/-- The quotients that round to a positive finite number. The step below a power of two is half
the step above it. -/
def Binary.interval {f : Format} (x : Binary f) : Interval :=
  let m := x.significand
  let narrow := m == 2 ^ f.fraction && f.minScale < x.scale
  let up := 2 ^ (x.scale - 2).toNat
  let down := 2 ^ (2 - x.scale).toNat
  { low := (4 * m - if narrow then 1 else 2) * up
    value := 4 * m * up
    high := (4 * m + 2) * up
    den := down
    closed := m % 2 == 0 }

/-- Of the two neighbours of the value on the grid with this step the one in the interval, the
nearer one if both are. -/
def Interval.onGrid (i : Interval) (stepNum stepDen : Nat) : Option Nat :=
  let num := i.value * stepDen
  let den := i.den * stepNum
  let below := num / den
  let above := below + 1
  let belowIn := i.contains (below * stepNum) stepDen
  let aboveIn := i.contains (above * stepNum) stepDen
  if belowIn && aboveIn then some (if 2 * (num % den) < den then below else above)
  else if belowIn then some below
  else if aboveIn then some above
  else none

/-- Try one more digit as long as none of the grids so far has met the interval. -/
def Interval.search (i : Interval) (top : Int) : Nat → Nat → Nat × Int
  | 0, n => (i.value / i.den, n)
  | fuel + 1, n =>
    let k := top - n
    match i.onGrid (10 ^ k.toNat) (10 ^ (-k).toNat) with
    | some d => (d, k)
    | none => i.search top fuel (n + 1)

/-- The shortest digits of a positive finite number; 20 are enough for every format in use. -/
def Binary.shortest {f : Format} (x : Binary f) : Digits :=
  let i := x.interval
  let (d, k) := i.search (floorLog10 i.value i.den) 20 0
  let written := Nat.toDigits 10 d
  let kept := (written.reverse.dropWhile (· == '0')).reverse
  ⟨kept, written.length + k⟩

/-- How numbers are written. -/
structure Layout where
  /-- The least and the greatest `point` of a number that is written without a power of ten. -/
  positional : Int → Bool
  /-- What follows the digits of a number without fractional part. -/
  whole : List Char
  /-- What stands before a power of ten that is not negative. -/
  plus : List Char
  notANumber : String
  infinity : String

/-- The digits with the point in its place. -/
def Layout.positionalText (l : Layout) (d : Digits) : List Char :=
  let n := d.digits.length
  if d.point ≤ 0 then '0' :: '.' :: List.replicate (-d.point).toNat '0' ++ d.digits
  else if (n : Int) ≤ d.point then
    d.digits ++ List.replicate (d.point.toNat - n) '0' ++ l.whole
  else d.digits.take d.point.toNat ++ '.' :: d.digits.drop d.point.toNat

/-- The digits with the point after the first of them and a power of ten. -/
def Layout.scientificText (l : Layout) (d : Digits) : List Char :=
  let e := d.point - 1
  let power := (if e < 0 then ['-'] else l.plus) ++ Nat.toDigits 10 e.natAbs
  match d.digits with
  | [] => []
  | [c] => c :: 'e' :: power
  | c :: cs => c :: '.' :: cs ++ 'e' :: power

def Layout.text {f : Format} (l : Layout) (x : Binary f) : String :=
  if x.isNaN then l.notANumber
  else
    let sign := if x.negative then ['-'] else []
    if !x.isFinite then String.ofList sign ++ l.infinity
    else if x.isZero then String.ofList (sign ++ '0' :: l.whole)
    else
      let d := x.shortest
      String.ofList (sign ++ if l.positional d.point then l.positionalText d else l.scientificText d)

/-- Numbers in SQL and in messages: never a power of ten, and no point in whole numbers. -/
def plainLayout : Layout where
  positional _ := true
  whole := []
  plus := []
  notANumber := "NaN"
  infinity := "inf"

/-- Numbers in JSON: a whole number keeps a zero after its point, and a power of ten is written
below 10⁻⁵ and from 10¹⁶ on. -/
def jsonLayout : Layout where
  positional p := -5 < p && p ≤ 16
  whole := ['.', '0']
  plus := ['+']
  notANumber := "null"
  infinity := "null"

end DataMapper.Number
