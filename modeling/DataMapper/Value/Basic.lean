import DataMapper.Calendar.Timestamp
import DataMapper.Json.Basic
import DataMapper.Text.Visible
import DataMapper.Uuid

/-!
# Values

A value is what a statement takes as a parameter, what a cell of a result holds and what a field
of a record is read from and written to.
-/

namespace DataMapper

open Number Calendar Text

/-- A single value of a database. -/
inductive Value where
  | null
  | bool (b : Bool)
  | int (n : Int64)
  | float (x : Double)
  | decimal (d : Decimal)
  | char (c : Char)
  | text (s : String)
  | bytes (bs : List UInt8)
  | date (d : Date)
  | time (t : TimeOfDay)
  | timestamp (t : Timestamp)
  /-- A point in time, as the clock of universal time shows it. -/
  | timestampUtc (t : Timestamp)
  | uuid (u : Uuid)
  | json (j : Json)
  /-- The name of one constant of an enumeration. -/
  | enumName (s : String)
  /-- The time at which the database executes the statement. -/
  | serverNow

/-- The kinds of values. -/
inductive ValueKind where
  | null | bool | int | float | decimal | char | text | bytes | date | time | timestamp
  | timestampUtc | uuid | json | enumName | serverNow
  deriving DecidableEq, Repr

namespace ValueKind

def name : ValueKind → String
  | null => "null"
  | bool => "bool"
  | int => "integer"
  | float => "float"
  | decimal => "decimal"
  | char => "char"
  | text => "text"
  | bytes => "bytes"
  | date => "date"
  | time => "time"
  | timestamp => "timestamp"
  | timestampUtc => "timestamptz"
  | uuid => "uuid"
  | json => "json"
  | enumName => "enum"
  | serverNow => "server-now"

end ValueKind

namespace Value

instance : Inhabited Value := ⟨null⟩

def kind : Value → ValueKind
  | null => .null
  | bool _ => .bool
  | int _ => .int
  | float _ => .float
  | decimal _ => .decimal
  | char _ => .char
  | text _ => .text
  | bytes _ => .bytes
  | date _ => .date
  | time _ => .time
  | timestamp _ => .timestamp
  | timestampUtc _ => .timestampUtc
  | uuid _ => .uuid
  | json _ => .json
  | enumName _ => .enumName
  | serverNow => .serverNow

def isNull : Value → Bool
  | null => true
  | _ => false

def isServerNow : Value → Bool
  | serverNow => true
  | _ => false

/-- Booleans, numbers and names of constants, which may stand in a statement as they are. -/
def isSimple : Value → Bool
  | bool _ | int _ | float _ | decimal _ | enumName _ => true
  | _ => false

def int? : Value → Option Int64
  | int n => some n
  | _ => none

def string? : Value → Option String
  | text s | enumName s => some s
  | _ => none

/-- Equality as a database sees it: numbers by their value, and what is not a number equals
nothing. -/
def equal : Value → Value → Bool
  | null, null => true
  | bool a, bool b => a == b
  | int a, int b => a == b
  | float a, float b => a.equal b
  | decimal a, decimal b => a.equal b
  | char a, char b => a == b
  | text a, text b => a == b
  | bytes a, bytes b => a == b
  | date a, date b => a == b
  | time a, time b => a == b
  | timestamp a, timestamp b => a == b
  | timestampUtc a, timestampUtc b => a == b
  | uuid a, uuid b => a == b
  | json a, json b => a.equal b
  | enumName a, enumName b => a == b
  | serverNow, serverNow => true
  | _, _ => false

/-- The value as a person is shown it: text between double quotes, bytes by their number. -/
def display : Value → String
  | null => "NULL"
  | bool b => if b then "true" else "false"
  | int n => String.ofList (Json.integerChars n.toInt)
  | float x => plainLayout.text x
  | decimal d => d.text
  | char c => displayChar c
  | text s => displayText s
  | bytes bs => s!"<{bs.length} bytes>"
  | date d => d.text
  | time t => t.text
  | timestamp t => t.text
  | timestampUtc t => t.text ++ " UTC"
  | uuid u => u.text
  | json j => j.text
  | enumName s => s
  | serverNow => "<server now>"

def ofOption : Option Value → Value
  | some v => v
  | none => null

end Value

end DataMapper
