/-!
# Column types of PostgreSQL

The types of parameters and columns, told apart as far as values are bound to them or read from
them.
-/

namespace DataMapper.Postgres

inductive ColumnType where
  | bool | char | int2 | int4 | int8 | oid | float4 | float8 | numeric
  | text | varchar | bpchar | name | unknown
  | bytea | date | time | timestamp | timestamptz | uuid | json | jsonb
  /-- An enumeration that has been defined in the database. -/
  | enumeration (name : String)
  /-- A type whose values are not read. -/
  | other (name : String)
  deriving DecidableEq, Repr

namespace ColumnType

def typeName : ColumnType → String
  | bool => "bool"
  | char => "char"
  | int2 => "int2"
  | int4 => "int4"
  | int8 => "int8"
  | oid => "oid"
  | float4 => "float4"
  | float8 => "float8"
  | numeric => "numeric"
  | text => "text"
  | varchar => "varchar"
  | bpchar => "bpchar"
  | name => "name"
  | unknown => "unknown"
  | bytea => "bytea"
  | date => "date"
  | time => "time"
  | timestamp => "timestamp"
  | timestamptz => "timestamptz"
  | uuid => "uuid"
  | json => "json"
  | jsonb => "jsonb"
  | enumeration n | other n => n

/-- The types that are part of every database and whose values are read. -/
def builtin : List ColumnType :=
  [bool, char, int2, int4, int8, oid, float4, float8, numeric, text, varchar, bpchar, name, unknown,
    bytea, date, time, timestamp, timestamptz, uuid, json, jsonb]

/-- The type with a name; one that is not known is not read. -/
def ofName (n : String) : ColumnType :=
  (builtin.find? fun t => t.typeName == n).getD (other n)

/-- Is any text a value of the type as it stands? -/
def isText : ColumnType → Bool
  | text | varchar | bpchar | name | unknown => true
  | _ => false

end ColumnType

end DataMapper.Postgres
