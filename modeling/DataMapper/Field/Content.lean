import DataMapper.Field.Coercion
import DataMapper.Field.Localized

/-!
# Field contents

A field has a shape and a content that fits it: a scalar, possibly absent, possibly left to the
database's clock. A content is written out as a value, made from a value, or assigned from one. Only
localized texts make the last two differ: assigning to one keeps the instance that others share.

## Main definitions

* `FieldShape.Content` — what a field of a shape can hold.
* `FieldShape.toValue`, `FieldShape.ofValue`, `FieldShape.assign`.
-/

namespace DataMapper

open Number Calendar Text

/-- The integer types of fields. -/
inductive IntegerKind where
  | signed8 | unsigned8 | signed16 | signed32 | unsigned16 | signed64 | unsigned32
  deriving DecidableEq, Repr

namespace IntegerKind

def low : IntegerKind → Int
  | signed8 => -2 ^ 7
  | signed16 => -2 ^ 15
  | signed32 => -2 ^ 31
  | signed64 => -2 ^ 63
  | unsigned8 | unsigned16 | unsigned32 => 0

def high : IntegerKind → Int
  | signed8 => 2 ^ 7 - 1
  | unsigned8 => 2 ^ 8 - 1
  | signed16 => 2 ^ 15 - 1
  | signed32 => 2 ^ 31 - 1
  | unsigned16 => 2 ^ 16 - 1
  | signed64 => 2 ^ 63 - 1
  | unsigned32 => 2 ^ 32 - 1

def typeName : IntegerKind → String
  | signed8 => "i8"
  | unsigned8 => "u8"
  | signed16 => "i16"
  | signed32 => "i32"
  | unsigned16 => "u16"
  | signed64 => "i64"
  | unsigned32 => "u32"

def fieldType : IntegerKind → FieldType
  | signed8 | unsigned8 => .byte
  | signed16 => .short
  | signed32 | unsigned16 => .int
  | signed64 | unsigned32 => .long

/-- The integers of the type. -/
abbrev Range (k : IntegerKind) := { n : Int // k.low ≤ n ∧ n ≤ k.high }

def zero (k : IntegerKind) : k.Range := ⟨0, by cases k <;> decide⟩

end IntegerKind

/-- An enumeration: its constants in order, each with the name under which it is stored, and the
constant that a new field holds. -/
structure Enumeration where
  typeName : String
  stored : List String
  default : Fin stored.length

/-- The types of fields that hold a single value. -/
inductive Scalar where
  | integer (kind : IntegerKind)
  | single | double | bool | decimal | char | string | bytes | date | time | timestamp
  | timestampUtc | uuid | json | properties | localized
  | enumeration (e : Enumeration)

namespace Scalar

def Content : Scalar → Type
  | integer k => k.Range
  | single => Single
  | double => Double
  | bool => Bool
  | decimal => Decimal
  | char => Char
  | string => String
  | bytes => List UInt8
  | date => Date
  | time => TimeOfDay
  | timestamp | timestampUtc => Timestamp
  | uuid => Uuid
  | json => Json
  | properties => KeyMap String
  | localized => LocalizedString
  | enumeration e => Fin e.stored.length

/-- The name of the type in messages. -/
def typeName : Scalar → String
  | integer k => k.typeName
  | single => "f32"
  | double => "f64"
  | bool => "bool"
  | decimal => "Decimal"
  | char => "char"
  | string => "String"
  | bytes => "Vec<u8>"
  | date => "NaiveDate"
  | time => "NaiveTime"
  | timestamp => "NaiveDateTime"
  | timestampUtc => "DateTime<Utc>"
  | uuid => "Uuid"
  | json => "serde_json::Value"
  | properties => "Properties"
  | localized => "LocalizedString"
  | enumeration e => e.typeName

def fieldType : Scalar → FieldType
  | integer k => k.fieldType
  | single => .float
  | double => .double
  | bool => .bool
  | decimal => .decimal
  | char => .char
  | string => .string
  | bytes => .bytes
  | date => .date
  | time => .time
  | timestamp => .timestamp
  | timestampUtc => .timestampUtc
  | uuid => .uuid
  | json => .json
  | properties => .properties
  | localized => .localized
  | enumeration _ => .enumName

def toValue (st : TextStore) : (s : Scalar) → s.Content → Value
  | integer _, n => .int (Int64.ofInt n.val)
  | single, x => .float (x.convert .double)
  | double, x => .float x
  | bool, b => .bool b
  | decimal, d => .decimal d
  | char, c => .char c
  | string, s => .text s
  | bytes, bs => .bytes bs
  | date, d => .date d
  | time, t => .time t
  | timestamp, t => .timestamp t
  | timestampUtc, t => .timestampUtc t
  | uuid, u => .uuid u
  | json, j => .json j
  | properties, m => .text (encodeMap m)
  | localized, h => .text (h.encode st)
  | enumeration e, i => .enumName (e.stored.get i)

/-- The map of texts that a value is the written form of. -/
def mapOfValue (typeName : String) (v : Value) : Except ConversionError (KeyMap String) :=
  match v with
  | .text s =>
    match decodeMap s with
    | .ok m => .ok m
    | .error e => .error (.invalid typeName v.kind (.pairs e))
  | v => .error (.unexpected typeName v.kind)

/-- The first constant that is stored under a name. -/
def constantOfValue (e : Enumeration) (v : Value) :
    Except ConversionError (Fin e.stored.length) :=
  match v with
  | .enumName s | .text s =>
    match e.stored.finIdxOf? s with
    | some i => .ok i
    | none => .error (.invalid e.typeName v.kind .unknownConstant)
  | v => .error (.unexpected e.typeName v.kind)

/-- A content made from a value; a localized text is a new instance. -/
def ofValue (st : TextStore) (s : Scalar) (v : Value) :
    Except ConversionError (s.Content × TextStore) :=
  match s, v with
  | integer k, .int n =>
    if h : k.low ≤ n.toInt ∧ n.toInt ≤ k.high then .ok (⟨n.toInt, h⟩, st)
    else .error (.invalid k.typeName .int .outOfRange)
  | single, .float x => .ok (x.convert .single, st)
  | double, .float x => .ok (x, st)
  | bool, .bool b => .ok (b, st)
  | decimal, .decimal d => .ok (d, st)
  | char, .char c => .ok (c, st)
  | string, .text s | string, .enumName s => .ok (s, st)
  | bytes, .bytes bs => .ok (bs, st)
  | date, .date d => .ok (d, st)
  | time, .time t => .ok (t, st)
  | timestamp, .timestamp t => .ok (t, st)
  | timestampUtc, .timestampUtc t => .ok (t, st)
  | uuid, .uuid u => .ok (u, st)
  | json, .json j => .ok (j, st)
  | properties, v => (mapOfValue "Properties" v).map fun m => (m, st)
  | localized, v => (mapOfValue "LocalizedString" v).map st.allocate
  | enumeration e, v => (constantOfValue e v).map fun i => (i, st)
  | s, v => .error (.unexpected s.typeName v.kind)

/-- The content after a value has been assigned to it. -/
def assign (st : TextStore) (s : Scalar) (c : s.Content) (v : Value) :
    Except ConversionError (s.Content × TextStore) :=
  match s, c with
  | localized, h => (mapOfValue "LocalizedString" v).map fun m => (h, st.write h m)
  | s, _ => s.ofValue st v

/-- The content of a new field. -/
def fresh (st : TextStore) : (s : Scalar) → s.Content × TextStore
  | integer k => (k.zero, st)
  | single => (Binary.zero, st)
  | double => (Binary.zero, st)
  | bool => (false, st)
  | decimal => (Decimal.zero, st)
  | char => ('\x00', st)
  | string => ("", st)
  | bytes => ([], st)
  | date => (Date.epoch, st)
  | time => (TimeOfDay.midnight, st)
  | timestamp => (Timestamp.midnight Date.epoch, st)
  | timestampUtc => (Timestamp.midnight Date.epoch, st)
  | uuid => (Uuid.nil, st)
  | json => (Json.null, st)
  | properties => (KeyMap.empty, st)
  | localized => st.allocate KeyMap.empty
  | enumeration e => (e.default, st)

end Scalar

/-- A value that may be left to the database's clock. -/
inductive ServerTime (α : Type) where
  | literal (a : α)
  | now
  deriving DecidableEq

namespace ServerTime

variable {α : Type}

instance : Inhabited (ServerTime α) := ⟨now⟩

def isNow : ServerTime α → Bool
  | now => true
  | literal _ => false

def literal? : ServerTime α → Option α
  | literal a => some a
  | now => none

end ServerTime

/-- How a field holds a scalar. -/
inductive FieldShape where
  | scalar (s : Scalar)
  | optional (t : FieldShape)
  | serverTime (t : FieldShape)

namespace FieldShape

def Content : FieldShape → Type
  | scalar s => s.Content
  | optional t => Option t.Content
  | serverTime t => ServerTime t.Content

def fieldType : FieldShape → FieldType
  | scalar s => s.fieldType
  | optional t | serverTime t => t.fieldType

def toValue (st : TextStore) : (t : FieldShape) → t.Content → Value
  | scalar s, c => s.toValue st c
  | optional _, none => .null
  | optional t, some c => t.toValue st c
  | serverTime _, .now => .serverNow
  | serverTime t, .literal c => t.toValue st c

def ofValue (st : TextStore) : (t : FieldShape) → Value →
    Except ConversionError (t.Content × TextStore)
  | scalar s, v => s.ofValue st v
  | optional t, v =>
    if v.isNull then .ok (none, st)
    else (t.ofValue st v).map fun (c, st) => (some c, st)
  | serverTime t, v =>
    if v.isServerNow then .ok (.now, st)
    else (t.ofValue st v).map fun (c, st) => (.literal c, st)

/-- The content after a value has been assigned to it. What is present in an optional field is
assigned to, and everything else is replaced. -/
def assign (st : TextStore) : (t : FieldShape) → t.Content → Value →
    Except ConversionError (t.Content × TextStore)
  | scalar s, c, v => s.assign st c v
  | optional t, some c, v =>
    if v.isNull then .ok (none, st)
    else (t.assign st c v).map fun (c, st) => (some c, st)
  | optional t, none, v => (optional t).ofValue st v
  | serverTime t, _, v => (serverTime t).ofValue st v

def fresh (st : TextStore) : (t : FieldShape) → t.Content × TextStore
  | scalar s => s.fresh st
  | optional _ => (none, st)
  | serverTime _ => (.now, st)

end FieldShape

/-- A field: a shape with a content that fits it. -/
structure Field where
  shape : FieldShape
  content : shape.Content

namespace Field

def fresh (st : TextStore) (t : FieldShape) : Field × TextStore :=
  let (c, st) := t.fresh st
  (⟨t, c⟩, st)

def toValue (st : TextStore) (f : Field) : Value := f.shape.toValue st f.content

/-- The field with a content made from a value. -/
def replace (st : TextStore) (f : Field) (v : Value) : Except ConversionError (Field × TextStore) :=
  (f.shape.ofValue st v).map fun (c, st) => (⟨f.shape, c⟩, st)

/-- The field after a value has been assigned to it. -/
def assign (st : TextStore) (f : Field) (v : Value) : Except ConversionError (Field × TextStore) :=
  (f.shape.assign st f.content v).map fun (c, st) => (⟨f.shape, c⟩, st)

end Field

end DataMapper
