import DataMapper.Number.Reading

/-!
# Decimal numbers

A decimal is a sign, a mantissa of at most 96 bits and a number of decimal places from 0 to 28. The
places are kept: `1.50` and `1.5` are equal numbers with different texts.

## Main definitions

* `Decimal.text`, `Decimal.read` — the written form and its reader, which rounds what has more
  places than fit.
* `Decimal.toInt?`, `Decimal.toDouble`, `Decimal.ofDouble?` — conversions.
-/

namespace DataMapper.Number

structure Decimal where
  negative : Bool
  mantissa : Nat
  scale : Nat
  mantissa_lt : mantissa < 2 ^ 96
  scale_le : scale ≤ 28
  deriving DecidableEq

namespace Decimal

def zero : Decimal := ⟨false, 0, 0, by decide, by decide⟩

instance : Inhabited Decimal := ⟨zero⟩

/-- The decimal with these parts, if they fit. -/
def make? (negative : Bool) (mantissa scale : Nat) : Option Decimal :=
  if h : mantissa < 2 ^ 96 ∧ scale ≤ 28 then some ⟨negative, mantissa, scale, h.1, h.2⟩ else none

def ofInt (n : Int64) : Decimal where
  negative := n.toInt < 0
  mantissa := n.toInt.natAbs
  scale := 0
  mantissa_lt := by have := n.toInt_lt; have := n.le_toInt; omega
  scale_le := by decide

/-- The value times 10^28. -/
def scaled (d : Decimal) : Int :=
  let size : Int := d.mantissa * 10 ^ (28 - d.scale)
  if d.negative then -size else size

/-- Numeric equality: places and the sign of zero do not count. -/
def equal (d e : Decimal) : Bool := d.scaled == e.scaled

/-! ## Text -/

/-- The digits of a number, filled with zeros on the left up to a length. -/
def paddedDigits (length n : Nat) : List Char :=
  let ds := Nat.toDigits 10 n
  List.replicate (length - ds.length) '0' ++ ds

def chars (d : Decimal) : List Char :=
  let sign := if d.negative then ['-'] else []
  let ds := paddedDigits (d.scale + 1) d.mantissa
  let whole := ds.length - d.scale
  sign ++ ds.take whole ++ if d.scale = 0 then [] else '.' :: ds.drop whole

def text (d : Decimal) : String := String.ofList d.chars

/-- Mantissa and places after the digit that follows them has been rounded away. Where the mantissa
grows past 96 bits it gives up its last place. -/
def roundPlace (mantissa scale digit : Nat) : Option (Nat × Nat) :=
  if digit < 5 then some (mantissa, scale)
  else if mantissa + 1 < 2 ^ 96 then some (mantissa + 1, scale)
  else if scale = 0 then none
  else some ((mantissa + 5) / 10, scale - 1)

/-- Digits with at most one point and with underscores after the first of them. The first digit
that has no room, for the mantissa or for the places, rounds those before it and ends the number. -/
def readDigits (started point : Bool) (mantissa scale : Nat) : List Char → Option (Nat × Nat)
  | [] => if started then some (mantissa, scale) else none
  | c :: cs =>
    match digit? c with
    | some d =>
      if point && scale == 28 then roundPlace mantissa scale d
      else if mantissa * 10 + d < 2 ^ 96 then
        readDigits true point (mantissa * 10 + d) (if point then scale + 1 else 0) cs
      else if point then roundPlace mantissa scale d
      else none
    | none =>
      if point && scale == 28 && (c == '.' || c == '_') then some (mantissa, scale)
      else if c == '.' && !point then readDigits started true mantissa scale cs
      else if c == '_' && started then readDigits started point mantissa scale cs
      else none

/-- The decimal that a text stands for. Zero has no minus sign. -/
def read (cs : List Char) : Option Decimal :=
  let (negative, body) := readSign cs
  (readDigits false false 0 0 body).bind fun (mantissa, scale) =>
    make? (negative && mantissa != 0) mantissa scale

/-! ## Conversions -/

def isWhole (d : Decimal) : Bool := d.mantissa % 10 ^ d.scale == 0

/-- The integer part. -/
def truncate (d : Decimal) : Int :=
  let size : Int := (d.mantissa / 10 ^ d.scale : Nat)
  if d.negative then -size else size

/-- A double near the decimal. The two sides of the point are converted one by one and added, and
the sum is rounded to the decimal's own places. -/
def toDouble (d : Decimal) : Double :=
  if d.scale = 0 then Binary.ofInt d.truncate
  else
    let unit : Double := Binary.ofInt (10 ^ d.scale : Nat)
    let whole : Double := Binary.ofInt (d.mantissa / 10 ^ d.scale : Nat)
    let part : Double :=
      Binary.ofRat ((Binary.ofInt (d.mantissa % 10 ^ d.scale : Nat) : Double).toRat / unit.toRat)
    let size : Double :=
      if part.isZero then whole
      else
        let sum : Double := Binary.ofRat (whole.toRat + part.toRat)
        let units : Double := Binary.ofRat (sum.toRat * unit.toRat)
        let nearest : Double := Binary.ofInt (units.toRat + mkRat 1 2).floor
        Binary.ofRat (nearest.toRat / unit.toRat)
    if d.negative then size.neg else size

/-- `n` halvings of a number `mantissa · 10^-scale`: by a factor five and a place more where 96
bits allow it, else by dropping a bit. -/
def halve : Nat → Nat → Nat → Nat × Nat
  | 0, mantissa, scale => (mantissa, scale)
  | n + 1, mantissa, scale =>
    if mantissa % 2 = 0 ∨ 2 ^ 96 ≤ mantissa * 5 then halve n (mantissa / 2) scale
    else halve n (mantissa * 5) (scale + 1)

/-- `n` doublings of a mantissa: by a factor two where 96 bits allow it, else by a division by five
and a factor ten, which are counted. -/
def double : Nat → Nat → Nat → Nat × Nat
  | 0, mantissa, tens => (mantissa, tens)
  | n + 1, mantissa, tens =>
    if mantissa < 2 ^ 95 then double n (mantissa * 2) tens
    else double n (mantissa / 5) (tens + 1)

/-- One place less, rounded half up. -/
def dropPlace (mantissa : Nat) : Nat :=
  mantissa / 10 + if 5 ≤ mantissa % 10 then 1 else 0

/-- At most 28 places; a mantissa that vanishes on the way is zero without places. -/
def fitPlaces : Nat → Nat → Nat × Nat
  | mantissa, 0 => (mantissa, 0)
  | mantissa, scale + 1 =>
    if scale + 1 ≤ 28 then (mantissa, scale + 1)
    else if mantissa / 10 = 0 then (0, 0)
    else fitPlaces (dropPlace mantissa) scale

/-- Places dropped until the mantissa has at most 52 bits. -/
def fitBits : Nat → Nat → Nat × Nat
  | mantissa, 0 => (mantissa, 0)
  | mantissa, scale + 1 =>
    if mantissa < 2 ^ 52 then (mantissa, scale + 1) else fitBits (dropPlace mantissa) scale

/-- Places dropped as long as they hold a zero. -/
def dropZeros : Nat → Nat → Nat × Nat
  | mantissa, 0 => (mantissa, 0)
  | mantissa, scale + 1 =>
    if mantissa % 10 = 0 then dropZeros (mantissa / 10) scale else (mantissa, scale + 1)

/-- The decimal for a finite double: about fifteen digits of it, without zeros at the end. -/
def ofDouble? (x : Double) : Option Decimal :=
  if !x.isFinite then none
  else if x.isZero then make? x.negative 0 0
  else if 0 ≤ x.scale then
    let (mantissa, tens) := double x.scale.toNat x.significand 0
    make? x.negative (mantissa * 10 ^ tens) 0
  else
    let (mantissa, scale) := halve (-x.scale).toNat x.significand 0
    let (mantissa, scale) := fitPlaces mantissa scale
    let (mantissa, scale) := fitBits mantissa scale
    let (mantissa, scale) := dropZeros mantissa scale
    make? x.negative mantissa scale

end Decimal

end DataMapper.Number
