import DataMapper.Number.Binary

/-!
# Reading numbers

Integers within bounds, and binary floating-point numbers, from the whole of a text.
-/

namespace DataMapper.Number

/-- Why a text is not an integer within bounds. -/
inductive IntegerFault where
  | empty
  | invalidDigit
  | tooLarge
  | tooSmall
  deriving DecidableEq, Repr

def IntegerFault.message : IntegerFault → String
  | empty => "cannot parse integer from empty string"
  | invalidDigit => "invalid digit found in string"
  | tooLarge => "number too large to fit in target type"
  | tooSmall => "number too small to fit in target type"

def digit? (c : Char) : Option Nat :=
  if c.isDigit then some (c.toNat - '0'.toNat) else none

/-- Digits read onto `value`, up to the first that is no digit or that passes `bound`. -/
def readDigits (bound : Nat) (beyond : IntegerFault) (value : Nat) :
    List Char → Except IntegerFault Nat
  | [] => .ok value
  | c :: cs =>
    match digit? c with
    | none => .error .invalidDigit
    | some d =>
      if bound < value * 10 + d then .error beyond
      else readDigits bound beyond (value * 10 + d) cs

/-- An integer from `low` to `high`; a minus sign only where `low` is negative. -/
def readInteger (low high : Int) (cs : List Char) : Except IntegerFault Int :=
  match cs with
  | [] => .error .empty
  | ['+'] | ['-'] => .error .invalidDigit
  | '-' :: cs =>
    if low < 0 then (readDigits low.natAbs .tooSmall 0 cs).map fun n => -(n : Int)
    else .error .invalidDigit
  | '+' :: cs => (readDigits high.natAbs .tooLarge 0 cs).map Int.ofNat
  | cs => (readDigits high.natAbs .tooLarge 0 cs).map Int.ofNat

/-- Why a text is not a floating-point number. -/
inductive FloatFault where
  | empty
  | invalid
  deriving DecidableEq, Repr

def FloatFault.message : FloatFault → String
  | empty => "cannot parse float from empty string"
  | invalid => "invalid float literal"

/-- The value that a run of digits continues. -/
def digitsValue (value : Nat) (cs : List Char) : Nat :=
  cs.foldl (fun n c => n * 10 + (c.toNat - '0'.toNat)) value

/-- A sign and what follows it. -/
def readSign : List Char → Bool × List Char
  | '-' :: cs => (true, cs)
  | '+' :: cs => (false, cs)
  | cs => (false, cs)

/-- The power of ten after a number: nothing, or a mark, a sign and digits. -/
def readPower : List Char → Option Int
  | [] => some 0
  | c :: cs =>
    let (negative, digits) := readSign cs
    if (c == 'e' || c == 'E') && !digits.isEmpty && digits.all Char.isDigit then
      let n : Int := digitsValue 0 digits
      some (if negative then -n else n)
    else none

/-- Digits with a point somewhere in or around them and a power of ten: the value is the first
component times ten to the second. -/
def readScientific (cs : List Char) : Option (Nat × Int) :=
  let whole := cs.takeWhile Char.isDigit
  let rest := cs.dropWhile Char.isDigit
  let (places, rest) := match rest with
    | '.' :: rest => (rest.takeWhile Char.isDigit, rest.dropWhile Char.isDigit)
    | rest => ([], rest)
  if whole.isEmpty && places.isEmpty then none
  else (readPower rest).map fun power =>
    (digitsValue (digitsValue 0 whole) places, power - places.length)

/-- The double nearest to `digits · 10^power`. Outside of 10^±400 no digit matters any more. -/
def Double.ofScientific (negative : Bool) (digits : Nat) (power : Int) : Double :=
  let top := (Nat.toDigits 10 digits).length + power
  let magnitude :=
    if digits = 0 || top < -400 then 0
    else if 400 < top then Format.double.infinity
    else if 0 ≤ power then Format.double.nearest (digits * 10 ^ power.toNat) 1
    else Format.double.nearest digits (10 ^ (-power).toNat)
  Binary.ofMagnitude negative magnitude

def readDouble (cs : List Char) : Except FloatFault Double :=
  if cs.isEmpty then .error .empty
  else
    let (negative, body) := readSign cs
    match readScientific body with
    | some (digits, power) => .ok (Double.ofScientific negative digits power)
    | none =>
      let name := String.ofList (body.map Char.toLower)
      if name = "inf" || name = "infinity" then
        .ok (Binary.ofMagnitude negative Format.double.infinity)
      else if name = "nan" then .ok Binary.nan
      else .error .invalid

end DataMapper.Number
