import DataMapper.Error
import DataMapper.Json.Reader
import DataMapper.Postgres.Binding
import DataMapper.Row

/-!
# Cells as values

The value that the bytes of a cell stand for in a column of a given type.

## Main definitions

* `decode` — a cell, which may be null.
* `decodeRows` — all cells of a result.
-/

namespace DataMapper.Postgres

open Text Number Calendar

/-- The number in exactly `length` bytes. -/
def signedOf? (length : Nat) (bytes : List UInt8) : Option Int :=
  if bytes.length = length then some (ofSignedBigEndian bytes) else none

def unsignedOf? (length : Nat) (bytes : List UInt8) : Option Nat :=
  if bytes.length = length then some (ofBigEndian bytes) else none

def floatOf? (f : Format) (bytes : List UInt8) : Option (Binary f) :=
  (unsignedOf? (f.width / 8) bytes).map fun n => ⟨BitVec.ofNat _ n⟩

/-- The time a number of microseconds after midnight. -/
def timeOfMicros? (micros : Nat) : Option TimeOfDay :=
  let second := micros / 1000000
  TimeOfDay.make? (second / 3600) (second / 60 % 60) (second % 60) (micros % 1000000 * 1000)

def timestampOf? (bytes : List UInt8) : Option Timestamp := do
  let micros ← signedOf? 8 bytes
  let date ← Date.ofDayNumber? (originDay + micros / dayMicros)
  let time ← timeOfMicros? (micros % dayMicros).toNat
  return ⟨date, time⟩

def readJson? (bytes : List UInt8) : Option Json := do Json.read (← ofUtf8? bytes).toList

def intValue (n : Int) : Value := .int (Int64.ofInt n)

/-- The value of a cell that is not null. -/
def valueOf? (t : ColumnType) (bytes : List UInt8) : Option Value :=
  match t with
  | .bool => (unsignedOf? 1 bytes).map fun n => .bool (n != 0)
  | .char => (signedOf? 1 bytes).map intValue
  | .int2 => (signedOf? 2 bytes).map intValue
  | .int4 => (signedOf? 4 bytes).map intValue
  | .int8 => (signedOf? 8 bytes).map intValue
  | .oid => (unsignedOf? 4 bytes).map fun n => intValue n
  | .float4 => (floatOf? .single bytes).map fun x => .float (x.convert .double)
  | .float8 => (floatOf? .double bytes).map .float
  | .numeric => ((Numeric.ofBytes? bytes).bind Numeric.toDecimal?).map .decimal
  | .text | .varchar | .bpchar | .name | .unknown => (ofUtf8? bytes).map .text
  | .bytea => some (.bytes bytes)
  | .date => do return .date (← Date.ofDayNumber? (originDay + (← signedOf? 4 bytes)))
  | .time => do return .time (← timeOfMicros? ((← signedOf? 8 bytes) % dayMicros).toNat)
  | .timestamp => (timestampOf? bytes).map .timestamp
  | .timestamptz => (timestampOf? bytes).map .timestampUtc
  | .uuid => (Uuid.ofBytes? bytes).map .uuid
  | .json => (readJson? bytes).map .json
  | .jsonb =>
    match bytes with
    | 1 :: rest => (readJson? rest).map .json
    | _ => none
  | .enumeration _ => (ofUtf8? bytes).map .enumName
  | .other _ => none

def decode (column : String) (t : ColumnType) (cell : Option (List UInt8)) : Except Error Value :=
  match t, cell with
  | .other name, _ => .error (.decode column (.unsupportedType name))
  | _, none => .ok .null
  | t, some bytes =>
    match valueOf? t bytes with
    | some v => .ok v
    | none => .error (.decode column .malformed)

/-- The rows of a result, unless a cell cannot be read. -/
def decodeRows (columns : List (String × ColumnType)) (rows : List (List (Option (List UInt8)))) :
    Except Error (List Row) :=
  rows.mapM fun row => do
    return ⟨← (columns.zip row).mapM fun ((name, t), cell) => do
      return (name, ← decode name t cell)⟩

end DataMapper.Postgres
