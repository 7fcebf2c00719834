import DataMapper.Json.Basic
import DataMapper.Number.BigEndian
import DataMapper.Postgres.Numeric
import DataMapper.Postgres.Type
import DataMapper.Value.Basic

/-!
# Values as parameters

The binary form in which a value is sent as a parameter of a given type. Whole numbers adapt to any
numeric type that holds them, texts to any character type, to enumerations and to the types of
extensions that are made of text.

## Main definitions

* `bind` — the bytes of a value, none for null, or why it cannot be sent.
-/

namespace DataMapper.Postgres

open Text Number Calendar

inductive BindFault where
  /-- No value of this kind is accepted for the type. -/
  | wrongType
  /-- The value is none of the type. -/
  | outOfRange
  | serverTime
  deriving DecidableEq, Repr

def BindFault.message : BindFault → String
  | wrongType => "wrong type"
  | outOfRange => "value out of range"
  | serverTime => "the server's current time cannot be bound as a parameter"

/-- A number in two's complement, if it fits. -/
def signedBytes (length : Nat) (n : Int) : Except BindFault (List UInt8) :=
  let half : Int := 2 ^ (8 * length - 1)
  if -half ≤ n ∧ n < half then .ok (signedBigEndian length n) else .error .outOfRange

def unsignedBytes (length : Nat) (n : Int) : Except BindFault (List UInt8) :=
  if 0 ≤ n ∧ n < 256 ^ length then .ok (bigEndian length n.toNat) else .error .outOfRange

def floatBytes {f : Format} (x : Binary f) : List UInt8 := bigEndian (f.width / 8) x.word.toNat

/-- The bytes of a text. Label trees and the patterns for them, which are types of an extension,
have the version of their format in front of it. -/
def textBytes (t : ColumnType) (s : String) : Except BindFault (List UInt8) :=
  match t with
  | .enumeration _ | .other "citext" => .ok (utf8 s)
  | .other "ltree" | .other "lquery" | .other "ltxtquery" => .ok (1 :: utf8 s)
  | t => if t.isText then .ok (utf8 s) else .error .wrongType

def intBytes (n : Int64) : ColumnType → Except BindFault (List UInt8)
  | .int2 => signedBytes 2 n.toInt
  | .int4 => signedBytes 4 n.toInt
  | .int8 => signedBytes 8 n.toInt
  | .oid => unsignedBytes 4 n.toInt
  | .float4 => .ok (floatBytes (Binary.ofInt n.toInt : Single))
  | .float8 => .ok (floatBytes (Binary.ofInt n.toInt : Double))
  | .numeric => .ok (Numeric.ofDecimal (.ofInt n)).bytes
  | t => if t.isText then .ok (utf8 (String.ofList (Json.integerChars n.toInt))) else .error .wrongType

def doubleBytes (x : Double) : ColumnType → Except BindFault (List UInt8)
  | .float4 => .ok (floatBytes (x.convert .single))
  | .float8 => .ok (floatBytes x)
  | .numeric =>
    match Decimal.ofDouble? x with
    | some d => .ok (Numeric.ofDecimal d).bytes
    | none => .error .outOfRange
  | _ => .error .wrongType

def decimalBytes (d : Decimal) : ColumnType → Except BindFault (List UInt8)
  | .float4 => .ok (floatBytes (d.toDouble.convert .single))
  | .float8 => .ok (floatBytes d.toDouble)
  | .numeric => .ok (Numeric.ofDecimal d).bytes
  | _ => .error .wrongType

/-- 2000-01-01, from which days and points in time are counted. -/
def originDay : Int := 10957

/-- Microseconds in a day. -/
def dayMicros : Int := 86400000000

/-- Nanoseconds since midnight. -/
def nanosOfDay (t : TimeOfDay) : Int :=
  (((t.hour * 60 + t.minute) * 60 + t.second) * secondNanos + t.nano : Nat)

def timeBytes (t : TimeOfDay) : List UInt8 := signedBigEndian 8 (nanosOfDay t / 1000)

/-- Whole microseconds since the origin; what is left of one is cut off. -/
def timestampBytes (t : Timestamp) : List UInt8 :=
  let nanos := (t.date.dayNumber - originDay) * dayMicros * 1000 + nanosOfDay t.time
  signedBigEndian 8 (nanos.tdiv 1000)

/-- The bytes of a value that is not null. -/
def bytesOf (t : ColumnType) (v : Value) : Except BindFault (List UInt8) :=
  match v, t with
  | .serverNow, _ => .error .serverTime
  | .int n, t => intBytes n t
  | .float x, t => doubleBytes x t
  | .decimal d, t => decimalBytes d t
  | .char c, t => textBytes t (String.ofList [c])
  | .text s, t | .enumName s, t => textBytes t s
  | .bool b, .bool => .ok [if b then 1 else 0]
  | .bytes bs, .bytea => .ok bs
  | .date d, .date => .ok (signedBigEndian 4 (d.dayNumber - originDay))
  | .time x, .time => .ok (timeBytes x)
  | .timestamp x, .timestamp | .timestamp x, .timestamptz => .ok (timestampBytes x)
  | .timestampUtc x, .timestamp | .timestampUtc x, .timestamptz => .ok (timestampBytes x)
  | .uuid u, .uuid => .ok u.bytes
  | .json j, .json => .ok (utf8 j.text)
  | .json j, .jsonb => .ok (1 :: utf8 j.text)
  | _, _ => .error .wrongType

def bind (t : ColumnType) (v : Value) : Except BindFault (Option (List UInt8)) :=
  if v.isNull then .ok none else (bytesOf t v).map some

end DataMapper.Postgres
