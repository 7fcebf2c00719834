/-!
# Binary floating-point numbers

A number of a binary interchange format is its word: a sign bit, a biased exponent and a fraction.
Every finite word stands for a rational number exactly, and every rational number has a nearest
word, where a tie goes to the even one. Arithmetic is exact arithmetic on the rationals followed
by that rounding.

A power of a natural number or of an integer is the built-in one, repeated multiplication, here and
in every module that imports this one: it comes before the power that a monoid has.

## Main definitions

* `Binary.toRat` — the value of a finite number.
* `Binary.ofRat` — the number nearest to a rational.
-/

attribute [instance (1100), default_instance 20000] instPowNat

namespace DataMapper.Number

/-- The widths of the fraction and of the exponent. -/
structure Format where
  fraction : Nat
  exponent : Nat
  deriving DecidableEq, Repr

namespace Format

def single : Format := ⟨23, 8⟩
def double : Format := ⟨52, 11⟩

abbrev width (f : Format) : Nat := 1 + f.exponent + f.fraction

/-- The power of two that the last place of the least numbers has. -/
def minScale (f : Format) : Int := 2 - 2 ^ (f.exponent - 1) - f.fraction

/-- The word of infinity without its sign; those above it are not numbers. -/
def infinity (f : Format) : Nat := (2 ^ f.exponent - 1) * 2 ^ f.fraction

end Format

/-- A number of the format, as its word. -/
structure Binary (f : Format) where
  word : BitVec f.width
  deriving DecidableEq

abbrev Single := Binary .single
abbrev Double := Binary .double

/-! ## Rounding -/

/-- The quotient rounded to the nearest integer, a tie to the even one. -/
def roundDiv (num den : Nat) : Nat :=
  let q := num / den
  let r := num % den
  if 2 * r < den then q
  else if den < 2 * r then q + 1
  else q + q % 2

/-- The power of two at or below a positive quotient. -/
def floorLog2 (num den : Nat) : Int :=
  let k : Int := (num.log2 : Int) - den.log2
  let below := if 0 ≤ k then num < den * 2 ^ k.toNat else num * 2 ^ (-k).toNat < den
  if below then k - 1 else k

/-- The word, without sign, nearest to a quotient; infinity where the format ends. -/
def Format.nearest (f : Format) (num den : Nat) : Nat :=
  if num = 0 then 0
  else
    let scale : Int := max f.minScale (floorLog2 num den - f.fraction)
    let significand :=
      if 0 ≤ scale then roundDiv num (den * 2 ^ scale.toNat)
      else roundDiv (num * 2 ^ (-scale).toNat) den
    min f.infinity ((scale - f.minScale).toNat * 2 ^ f.fraction + significand)

namespace Binary

variable {f : Format}

def negative (x : Binary f) : Bool := x.word.msb

/-- The word without its sign. -/
def magnitude (x : Binary f) : Nat := x.word.toNat % 2 ^ (f.exponent + f.fraction)

def ofMagnitude (negative : Bool) (magnitude : Nat) : Binary f :=
  ⟨BitVec.ofNat _ (magnitude + if negative then 2 ^ (f.exponent + f.fraction) else 0)⟩

def isFinite (x : Binary f) : Bool := x.magnitude < f.infinity

def isNaN (x : Binary f) : Bool := f.infinity < x.magnitude

def isZero (x : Binary f) : Bool := x.magnitude == 0

/-- The one word that stands for what is not a number. -/
def nan : Binary f := ofMagnitude false (f.infinity + 2 ^ (f.fraction - 1))

def zero : Binary f := ofMagnitude false 0

/-- The significand of a finite number: its value in units of the last place. -/
def significand (x : Binary f) : Nat :=
  let biased := x.magnitude / 2 ^ f.fraction
  let fraction := x.magnitude % 2 ^ f.fraction
  if biased = 0 then fraction else 2 ^ f.fraction + fraction

/-- The power of two that the last place of a finite number has. -/
def scale (x : Binary f) : Int :=
  f.minScale + (x.magnitude / 2 ^ f.fraction - 1 : Nat)

/-- The value of a finite number. -/
def toRat (x : Binary f) : Rat :=
  let size : Rat :=
    if 0 ≤ x.scale then ((x.significand * 2 ^ x.scale.toNat : Nat) : Rat)
    else mkRat x.significand (2 ^ (-x.scale).toNat)
  if x.negative then -size else size

/-- The number nearest to a rational. -/
def ofRat (r : Rat) : Binary f :=
  ofMagnitude (decide (r < 0)) (f.nearest r.num.natAbs r.den)

def ofInt (n : Int) : Binary f := ofRat n

def neg (x : Binary f) : Binary f := ofMagnitude (!x.negative) x.magnitude

/-- Numeric equality: the two zeros are equal, and what is not a number equals nothing. -/
def equal (x y : Binary f) : Bool :=
  !x.isNaN && !y.isNaN && (x == y || x.isZero && y.isZero)

/-- The payload of what is not a number in a format with another fraction: its front, or all of it
filled with zeros. -/
def payload (g : Format) (x : Binary f) : Nat :=
  let p := x.magnitude % 2 ^ f.fraction * 2 ^ g.fraction / 2 ^ f.fraction
  p % 2 ^ (g.fraction - 1)

/-- The same value in another format, rounded where that is narrower. What is not a number keeps its
sign and its payload, and becomes a quiet one. -/
def convert (g : Format) (x : Binary f) : Binary g :=
  if x.isNaN then ofMagnitude x.negative (g.infinity + 2 ^ (g.fraction - 1) + payload g x)
  else if x.isFinite then
    ofMagnitude x.negative (g.nearest x.toRat.num.natAbs x.toRat.den)
  else ofMagnitude x.negative g.infinity

/-- The integer that a finite number without fractional part is. -/
def toInt? (x : Binary f) : Option Int :=
  if x.isFinite && x.toRat.den == 1 then some x.toRat.num else none

end Binary

end DataMapper.Number
