/-!
# Field types

What a field of a record is declared to hold, how a column for it is declared, and the category in
which a database stores it.
-/

namespace DataMapper

inductive FieldType where
  | bool | byte | short | int | long | float | double | decimal | char | string | bytes | date
  | time | timestamp | timestampUtc | uuid | json | enumName | properties | localized
  deriving DecidableEq, Repr

/-- Categories of storage. -/
inductive Storage where
  | decimal | boolean | byte | char | integer | float | binary | timestamp | enumName | string
  deriving DecidableEq, Repr

def Storage.name : Storage → String
  | decimal => "Decimal"
  | boolean => "Boolean"
  | byte => "Byte"
  | char => "Char"
  | integer => "Integer"
  | float => "Float"
  | binary => "Binary"
  | timestamp => "DateTime"
  | enumName => "Enum"
  | string => "String"

namespace FieldType

def all : List FieldType :=
  [bool, byte, short, int, long, float, double, decimal, char, string, bytes, date, time,
    timestamp, timestampUtc, uuid, json, enumName, properties, localized]

def name : FieldType → String
  | bool => "bool"
  | byte => "byte"
  | short => "short"
  | int => "int"
  | long => "long"
  | float => "float"
  | double => "double"
  | decimal => "decimal"
  | char => "char"
  | string => "string"
  | bytes => "bytes"
  | date => "date"
  | time => "time"
  | timestamp => "datetime"
  | timestampUtc => "datetime-utc"
  | uuid => "uuid"
  | json => "json"
  | enumName => "enum"
  | properties => "properties"
  | localized => "localized-string"

def ofName? (name : String) : Option FieldType :=
  all.find? (·.name = name)

/-- What has no category of its own is stored as text. -/
def storage : FieldType → Storage
  | bool => .boolean
  | byte => .byte
  | short | int | long => .integer
  | float | double => .float
  | decimal => .decimal
  | char => .char
  | bytes => .binary
  | date | time | timestamp | timestampUtc => .timestamp
  | enumName => .enumName
  | string | uuid | json | properties | localized => .string

/-- The type of a column for such a field. -/
def columnType : FieldType → String
  | bool => "BOOLEAN"
  | byte | short => "SMALLINT"
  | int => "INTEGER"
  | long => "BIGINT"
  | float => "REAL"
  | double => "DOUBLE PRECISION"
  | decimal => "DECIMAL"
  | char => "CHAR(1)"
  | bytes => "BYTEA"
  | date => "DATE"
  | time => "TIME"
  | timestamp => "TIMESTAMP"
  | timestampUtc => "TIMESTAMP WITH TIME ZONE"
  | uuid => "UUID"
  | json => "JSON"
  | enumName => "VARCHAR(64)"
  | string | properties | localized => "TEXT"

def isInteger : FieldType → Bool
  | byte | short | int | long => true
  | _ => false

end FieldType

end DataMapper
