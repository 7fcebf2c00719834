import DataMapper.Calendar.Reading
import DataMapper.Field.Type
import DataMapper.Json.Reader
import DataMapper.Value.Conversion

/-!
# Coercion

Databases return the same content in many kinds of values: truth values as integers, names as
text, sums as decimals. Coercion brings such a value into the kind that a field type holds. Null
passes through, and nothing is ever rounded on its way into an integer.
-/

namespace DataMapper

open Number Calendar Text

/-- The least and the greatest integer of 64 bits. -/
def minInt64 : Int := -2 ^ 63
def maxInt64 : Int := 2 ^ 63 - 1

/-- The word for an integer, if 64 bits hold it. -/
def int64? (n : Int) : Option Int64 :=
  if minInt64 ≤ n ∧ n ≤ maxInt64 then some (Int64.ofInt n) else none

def trimmed (s : String) : List Char := (trim s).toList

/-- The truth value that a word stands for. -/
def truthOfWord? (word : String) : Option Bool :=
  if word ∈ ["t", "true", "1", "y", "yes"] then some true
  else if word ∈ ["f", "false", "0", "n", "no"] then some false
  else none

def lowerAscii (cs : List Char) : String := String.ofList (cs.map Char.toLower)

namespace FieldType

/-- An integer of 64 bits with the same value as the number. -/
def coerceInteger (expected : String) (v : Value) : Except ConversionError Value :=
  let invalid (fault : ContentFault) := Except.error (.invalid expected v.kind fault)
  let ofInt (n : Int) :=
    match int64? n with
    | some n => .ok (.int n)
    | none => invalid .outOfRange
  match v with
  | .int n => .ok (.int n)
  | .bool b => .ok (.int (if b then 1 else 0))
  | .decimal d => if d.isWhole then ofInt d.truncate else invalid .fractional
  | .float x =>
    match x.toInt? with
    | some n => ofInt n
    | none => invalid .fractional
  | .text s =>
    match readInteger minInt64 maxInt64 (trimmed s) with
    | .ok n => ofInt n
    | .error fault => invalid (.integer fault)
  | v => .error (.unexpected expected v.kind)

/-- The value in the kind that the field type holds. -/
def coerce (type : FieldType) (v : Value) : Except ConversionError Value :=
  let unexpected := Except.error (.unexpected type.name v.kind)
  let invalid (fault : ContentFault) := Except.error (.invalid type.name v.kind fault)
  /- A value read from text, or the form that the text does not have. -/
  let ofText (form : String) (read : Option Value) :=
    match read with
    | some w => .ok w
    | none => invalid (.malformed form)
  match type, v with
  | _, .null => .ok .null
  | .bool, .bool b => .ok (.bool b)
  | .bool, .int n => .ok (.bool (n != 0))
  | .bool, .text s =>
    match truthOfWord? (lowerAscii (trimmed s)) with
    | some b => .ok (.bool b)
    | none => unexpected
  | .byte, v | .short, v | .int, v | .long, v => coerceInteger type.name v
  | .float, .float x | .double, .float x => .ok (.float x)
  | .float, .int n | .double, .int n => .ok (.float (Binary.ofInt n.toInt))
  | .float, .decimal d | .double, .decimal d => .ok (.float d.toDouble)
  | .float, .text s | .double, .text s =>
    match readDouble (trimmed s) with
    | .ok x => .ok (.float x)
    | .error fault => invalid (.float fault)
  | .decimal, .decimal d => .ok (.decimal d)
  | .decimal, .int n => .ok (.decimal (.ofInt n))
  | .decimal, .float x =>
    match Decimal.ofDouble? x with
    | some d => .ok (.decimal d)
    | none => invalid .notRepresentable
  | .decimal, .text s => ofText "decimal" ((Decimal.read (trimmed s)).map .decimal)
  | .char, .char c => .ok (.char c)
  | .char, .text s =>
    match s.toList with
    | [c] => .ok (.char c)
    | _ => invalid .notOneCharacter
  | .string, .text s | .string, .enumName s => .ok (.text s)
  | .string, .char c => .ok (.text (String.ofList [c]))
  | .string, .uuid u => .ok (.text u.text)
  | .string, .json j => .ok (.text j.text)
  | .string, .int n => .ok (.text (String.ofList (Json.integerChars n.toInt)))
  | .string, .decimal d => .ok (.text d.text)
  | .bytes, .bytes bs => .ok (.bytes bs)
  | .bytes, .text s => .ok (.bytes (utf8 s))
  | .date, .date d => .ok (.date d)
  | .date, .timestamp t | .date, .timestampUtc t => .ok (.date t.date)
  | .date, .text s => ofText "date" ((readDate (trimmed s)).map .date)
  | .time, .time t => .ok (.time t)
  | .time, .timestamp t => .ok (.time t.time)
  | .time, .text s => ofText "time" ((readTime (trimmed s)).map .time)
  | .timestamp, .timestamp t | .timestamp, .timestampUtc t => .ok (.timestamp t)
  | .timestamp, .date d => .ok (.timestamp (.midnight d))
  | .timestamp, .text s =>
    match readTimestamp (trimmed s) with
    | some t => .ok (.timestamp t)
    | none => invalid .notTimestamp
  | .timestampUtc, .timestampUtc t | .timestampUtc, .timestamp t => .ok (.timestampUtc t)
  | .timestampUtc, .text s =>
    let cs := trimmed s
    match ((readInternet cs).bind OffsetTimestamp.utc?).orElse fun _ => readTimestamp cs with
    | some t => .ok (.timestampUtc t)
    | none => invalid .notTimestamp
  | .uuid, .uuid u => .ok (.uuid u)
  | .uuid, .text s => ofText "uuid" ((Uuid.read (trimmed s)).map .uuid)
  | .uuid, .bytes bs => ofText "uuid" ((Uuid.ofBytes? bs).map .uuid)
  | .json, .json j => .ok (.json j)
  | .json, .text s => ofText "json" ((Json.read s.toList).map .json)
  | .enumName, .enumName s | .enumName, .text s => .ok (.enumName s)
  | .properties, .text s | .localized, .text s => .ok (.text s)
  | _, _ => unexpected

end FieldType

end DataMapper
