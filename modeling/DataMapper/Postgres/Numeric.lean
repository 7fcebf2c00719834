import DataMapper.Number.BigEndian
import DataMapper.Number.Decimal

/-!
# The binary form of numerics

A numeric travels as its digits to the base 10000, with the weight of the first of them, a sign and
the number of decimal places to show.

## Main definitions

* `Numeric.ofDecimal`, `Numeric.toDecimal?` — from and to decimals.
* `Numeric.bytes`, `Numeric.ofBytes?` — the bytes.
-/

namespace DataMapper.Postgres

open Number

structure Numeric where
  negative : Bool
  /-- The first digit counts `10000 ^ weight`. -/
  weight : Int
  places : Nat
  digits : List Nat
  deriving DecidableEq, Repr

/-- The digits of a number to the base 10000, the highest first. -/
def myriads (n : Nat) : List Nat :=
  if n = 0 then [] else myriads (n / 10000) ++ [n % 10000]
termination_by n
decreasing_by omega

namespace Numeric

/-- A decimal as a numeric. Zeros at the end are kept before the point, and also behind it where
nothing stands before it. Zero has neither digits nor places nor sign. -/
def ofDecimal (d : Decimal) : Numeric :=
  if d.mantissa = 0 then ⟨false, 0, 0, []⟩
  else
    let behind := (d.scale + 3) / 4
    let digits := myriads (d.mantissa * 10 ^ (behind * 4 - d.scale))
    let before := digits.length - behind
    let fraction := digits.drop before
    let kept :=
      if before = 0 then fraction
      else (fraction.reverse.dropWhile (· == 0)).reverse
    ⟨d.negative, digits.length - behind - 1, d.scale, digits.take before ++ kept⟩

/-! ## To decimals -/

/-- A number of `10^-scale` parts with the most decimal places with which it fits 96 bits, rounded to
the nearest, a tie to the even one. At least `dropped` places are dropped, and at most `left` more. -/
def fitFrom (mantissa scale dropped : Nat) : Nat → Option (Nat × Nat)
  | 0 =>
    let m := roundDiv mantissa (10 ^ dropped)
    if m < 2 ^ 96 then some (m, scale - dropped) else none
  | left + 1 =>
    let m := roundDiv mantissa (10 ^ dropped)
    if m < 2 ^ 96 then some (m, scale - dropped) else fitFrom mantissa scale (dropped + 1) left

def fit? (mantissa scale : Nat) : Option (Nat × Nat) := fitFrom mantissa scale 0 scale

/-- The sum of a decimal and `digit · 10^-place`. -/
def addDigit? (sum : Nat × Nat) (digit place : Nat) : Option (Nat × Nat) :=
  if digit = 0 then some sum
  else
    let (digit, place) := Decimal.dropZeros digit place
    let scale := max sum.2 place
    fit? (sum.1 * 10 ^ (scale - sum.2) + digit * 10 ^ (scale - place)) scale

/-- Add the digits behind the point, from the one `place` places behind it on. What comes after 28
places only rounds the last of them. -/
def addFraction? (sum : Nat × Nat) (place : Nat) : List Nat → Option (Nat × Nat)
  | [] => some sum
  | d :: ds => do
    let sum ←
      if place ≤ 28 then addDigit? sum d place
      else if place = 32 ∧ 5000 ≤ d then addDigit? sum 1 28
      else some sum
    addFraction? sum (place + 4) ds

/-- Append up to `n` zeros, as far as there is room. -/
def fillPlaces (mantissa scale : Nat) : Nat → Nat × Nat
  | 0 => (mantissa, scale)
  | n + 1 =>
    if mantissa * 10 < 2 ^ 96 ∧ scale < 28 then fillPlaces (mantissa * 10) (scale + 1) n
    else (mantissa, scale)

/-- A decimal with another number of places: rounded, a half away from zero, or filled with
zeros. -/
def toPlaces (mantissa scale places : Nat) : Nat × Nat :=
  if mantissa = 0 then (0, min places 28)
  else if places ≤ scale then
    ((mantissa + 10 ^ (scale - places) / 2) / 10 ^ (scale - places), places)
  else fillPlaces mantissa scale (places - scale)

/-- The decimal for a numeric; too great ones have none. -/
def toDecimal? (n : Numeric) : Option Decimal := do
  let before := (n.weight + 1).toNat
  let given := n.digits.take before
  let whole := given.foldl (fun w d => w * 10000 + d) 0 * 10000 ^ (before - given.length)
  if 2 ^ 96 ≤ whole then none
  else
    let place := 4 * ((-n.weight - 1).toNat + 1)
    let (mantissa, scale) ← addFraction? (whole, 0) place (n.digits.drop before)
    let (mantissa, scale) := toPlaces mantissa scale n.places
    Decimal.make? n.negative mantissa scale

/-! ## Bytes -/

def negativeSign : Nat := 0x4000

/-- The signs of what is not a number and of the two infinities. -/
def specialSigns : List Nat := [0xc000, 0xd000, 0xf000]

def bytes (n : Numeric) : List UInt8 :=
  bigEndian 2 n.digits.length ++ signedBigEndian 2 n.weight ++
    bigEndian 2 (if n.negative then negativeSign else 0) ++ bigEndian 2 n.places ++
    n.digits.flatMap (bigEndian 2)

/-- A number of two bytes at the front. -/
def readWord : List UInt8 → Option (Nat × List UInt8)
  | a :: b :: rest => some (ofBigEndian [a, b], rest)
  | _ => none

def readWords : Nat → List UInt8 → Option (List Nat)
  | 0, _ => some []
  | count + 1, bytes => do
    let (w, rest) ← readWord bytes
    return w :: (← readWords count rest)

/-- The numeric at the front of the bytes, if it is a finite one. -/
def ofBytes? (bytes : List UInt8) : Option Numeric := do
  let (count, rest) ← readWord bytes
  let weight := ofSignedBigEndian (rest.take 2)
  let (_, rest) ← readWord rest
  let (sign, rest) ← readWord rest
  let (places, rest) ← readWord rest
  if sign ∈ specialSigns then none
  else return ⟨sign == negativeSign, weight, places, ← readWords count rest⟩

end Numeric

end DataMapper.Postgres
