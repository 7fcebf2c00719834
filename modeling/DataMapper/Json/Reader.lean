import DataMapper.Json.Basic
import DataMapper.Number.Reading
import DataMapper.Text.Utf8

/-!
# Reading JSON

A value takes the whole text apart from blanks. At most 127 arrays and objects stand inside one
another. Of members with one name the last one counts.

## Main definitions

* `JsonNumber.read` — numbers, with the arithmetic that turns digits into a double.
* `Json.read` — values.
-/

namespace DataMapper

open Number Text

namespace JsonNumber

/-- Digits taken onto a significand as long as it stays below 2^64. -/
def takeDigits (significand : Nat) : List Char → Nat × List Char
  | [] => (significand, [])
  | c :: cs =>
    match digit? c with
    | none => (significand, c :: cs)
    | some d =>
      if significand * 10 + d < 2 ^ 64 then takeDigits (significand * 10 + d) cs
      else (significand, c :: cs)

def powerOfTen (n : Nat) : Double := Binary.ofRat ((10 ^ n : Nat) : Rat)

/-- A double times a power of ten, with one rounding for each 308 places of a negative power;
`none` beyond the greatest double. Two steps of 308 places leave nothing of a significand. -/
def scaleByTen (x : Double) (power : Int) : Nat → Option Double
  | 0 => some Binary.zero
  | fuel + 1 =>
    if x.isZero then some x
    else if 308 < power then none
    else if 0 ≤ power then
      let y : Double := Binary.ofRat (x.toRat * (powerOfTen power.toNat).toRat)
      if y.isFinite then some y else none
    else if -308 ≤ power then
      some (Binary.ofRat (x.toRat / (powerOfTen (-power).toNat).toRat))
    else scaleByTen (Binary.ofRat (x.toRat / (powerOfTen 308).toRat)) (power + 308) fuel

/-- The number `significand · 10^power`. -/
def float? (negative : Bool) (significand : Nat) (power : Int) : Option Json :=
  (scaleByTen (Binary.ofInt significand) power 4).map fun x =>
    .float (if negative then x.neg else x)

/-- The power of ten written at the front, zero where none is; `none` where its digits are
missing. -/
def readPower (cs : List Char) : Option (Int × List Char) :=
  match cs with
  | c :: cs =>
    if c = 'e' ∨ c = 'E' then
      let (negative, rest) := readSign cs
      let ds := rest.takeWhile Char.isDigit
      if ds.isEmpty then none
      else
        let n : Int := digitsValue 0 ds
        some (if negative then -n else n, rest.dropWhile Char.isDigit)
    else some (0, c :: cs)
  | [] => some (0, [])

/-- What follows the whole part of a number: places, a power of ten, or nothing. Digits beyond the
significand's 64 bits are dropped; those before the point count as a power of ten. -/
def readRest (negative : Bool) (significand : Nat) (cs : List Char) : Option (Json × List Char) :=
  let dropped := (cs.takeWhile Char.isDigit).length
  match cs.dropWhile Char.isDigit with
  | '.' :: cs =>
    let places := cs.takeWhile Char.isDigit
    if places.isEmpty then none
    else do
      let (s, unread) := takeDigits significand places
      let (power, rest) ← readPower (cs.dropWhile Char.isDigit)
      let x ← float? negative s (dropped - (places.length - unread.length : Nat) + power)
      return (x, rest)
  | cs => do
    let (power, rest) ← readPower cs
    if rest.length = cs.length && dropped = 0 then
      let n : Int := significand
      if !negative then return (.integer n, rest)
      else if 0 < significand && significand ≤ 2 ^ 63 then return (.integer (-n), rest)
      else return (.float (Binary.ofInt n : Double).neg, rest)
    else
      let x ← float? negative significand (dropped + power)
      return (x, rest)

/-- A number: an optional minus sign and digits that do not begin with a needless zero. -/
def read (cs : List Char) : Option (Json × List Char) :=
  let (negative, body) := match cs with
    | '-' :: cs => (true, cs)
    | cs => (false, cs)
  match body with
  | '0' :: c :: cs => if c.isDigit then none else readRest negative 0 (c :: cs)
  | '0' :: [] => readRest negative 0 []
  | c :: cs =>
    if c.isDigit then
      let (s, rest) := takeDigits 0 (c :: cs)
      readRest negative s rest
    else none
  | [] => none

end JsonNumber

namespace Json

def isJsonBlank (c : Char) : Bool := c == ' ' || c == '\n' || c == '\t' || c == '\r'

def skipBlanks (cs : List Char) : List Char := cs.dropWhile isJsonBlank

/-- Four hexadecimal digits. -/
def readUnit : List Char → Option (Nat × List Char)
  | a :: b :: c :: d :: cs => do
    let a ← hexValue? a
    let b ← hexValue? b
    let c ← hexValue? c
    let d ← hexValue? d
    return (((a * 16 + b) * 16 + c) * 16 + d, cs)
  | _ => none

/-- The character after `\u`: one unit of 16 bits, or a pair of surrogates. -/
def readUnicode (cs : List Char) : Option (Char × List Char) := do
  let (high, cs) ← readUnit cs
  if 0xdc00 ≤ high && high ≤ 0xdfff then none
  else if 0xd800 ≤ high && high ≤ 0xdbff then
    match cs with
    | '\\' :: 'u' :: cs =>
      let (low, cs) ← readUnit cs
      if 0xdc00 ≤ low && low ≤ 0xdfff then
        return (Char.ofNat (0x10000 + (high - 0xd800) * 0x400 + (low - 0xdc00)), cs)
      else none
    | _ => none
  else return (Char.ofNat high, cs)

/-- The character that a simple escape stands for. -/
def simpleEscape? : Char → Option Char
  | '"' => some '"'
  | '\\' => some '\\'
  | '/' => some '/'
  | 'b' => some '\x08'
  | 'f' => some '\x0c'
  | 'n' => some '\n'
  | 'r' => some '\r'
  | 't' => some '\t'
  | _ => none

/-- The rest of a string after its opening quote; `fuel` bounds the number of characters. -/
def readString : Nat → List Char → Option (List Char × List Char)
  | 0, _ => none
  | _, [] => none
  | fuel + 1, c :: cs =>
    if c = '"' then some ([], cs)
    else if c.toNat < 0x20 then none
    else if c = '\\' then
      match cs with
      | 'u' :: cs => do
        let (u, cs) ← readUnicode cs
        let (s, rest) ← readString fuel cs
        return (u :: s, rest)
      | e :: cs => do
        let u ← simpleEscape? e
        let (s, rest) ← readString fuel cs
        return (u :: s, rest)
      | [] => none
    else do
      let (s, rest) ← readString fuel cs
      return (c :: s, rest)

/-- The rest of the text after a literal at its front. -/
def skipLiteral (literal cs : List Char) : Option (List Char) :=
  if cs.take literal.length = literal then some (cs.drop literal.length) else none

mutual

/-- A value after blanks. `depth` bounds the nesting and `fuel` the number of steps. -/
def readValue (depth : Nat) : Nat → List Char → Option (Json × List Char)
  | 0, _ => none
  | fuel + 1, cs =>
    match skipBlanks cs with
    | '"' :: cs => (readString (cs.length + 1) cs).map fun (s, rest) =>
        (string (String.ofList s), rest)
    | '[' :: cs =>
      if depth = 0 then none
      else match skipBlanks cs with
        | ']' :: rest => some (array [], rest)
        | cs => (readItems (depth - 1) fuel cs).map fun (items, rest) => (array items, rest)
    | '\x7b' :: cs =>
      if depth = 0 then none
      else match skipBlanks cs with
        | '\x7d' :: rest => some (object [], rest)
        | cs => (readMembers (depth - 1) fuel [] cs).map fun (ms, rest) => (object ms, rest)
    | 'n' :: cs => (skipLiteral "ull".toList cs).map fun rest => (null, rest)
    | 't' :: cs => (skipLiteral "rue".toList cs).map fun rest => (bool true, rest)
    | 'f' :: cs => (skipLiteral "alse".toList cs).map fun rest => (bool false, rest)
    | cs => JsonNumber.read cs

/-- Items up to the closing bracket. -/
def readItems (depth : Nat) : Nat → List Char → Option (List Json × List Char)
  | 0, _ => none
  | fuel + 1, cs => do
    let (item, cs) ← readValue depth fuel cs
    match skipBlanks cs with
    | ']' :: rest => return ([item], rest)
    | ',' :: cs =>
      let (items, rest) ← readItems depth fuel cs
      return (item :: items, rest)
    | _ => none

/-- Members up to the closing brace, put among those before them. -/
def readMembers (depth : Nat) :
    Nat → List (String × Json) → List Char → Option (List (String × Json) × List Char)
  | 0, _, _ => none
  | fuel + 1, before, cs =>
    match skipBlanks cs with
    | '"' :: cs => do
      let (k, cs) ← readString (cs.length + 1) cs
      match skipBlanks cs with
      | ':' :: cs =>
        let (v, cs) ← readValue depth fuel cs
        let members := insertKey (String.ofList k) v before
        match skipBlanks cs with
        | '\x7d' :: rest => return (members, rest)
        | ',' :: cs => readMembers depth fuel members cs
        | _ => none
      | _ => none
    | _ => none

end

/-- How deep arrays and objects may stand inside one another. -/
def maxDepth : Nat := 127

/-- The value that a text stands for. -/
def read (cs : List Char) : Option Json :=
  match readValue maxDepth (2 * cs.length + 2) cs with
  | some (j, rest) => if (skipBlanks rest).isEmpty then some j else none
  | none => none

end Json

end DataMapper
