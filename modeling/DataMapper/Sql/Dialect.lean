import DataMapper.Text.Blank

/-!
# Dialects

The dialects of SQL differ in the expression for the time of the database and in the statement that
asks for the identity given out last.
-/

namespace DataMapper.Sql

open Text

inductive Dialect where
  | postgres | mysql | sqlite
  deriving DecidableEq, Repr, Inhabited

namespace Dialect

def currentTimestamp : Dialect → String
  | postgres => "now()"
  | mysql => "NOW()"
  | sqlite => "CURRENT_TIMESTAMP"

/-- The statement that returns the identity which the last insert on a connection generated. -/
def lastIdentity : Dialect → String
  | postgres => "SELECT lastval()"
  | mysql => "SELECT LAST_INSERT_ID()"
  | sqlite => "SELECT last_insert_rowid()"

def name : Dialect → String
  | postgres => "postgres"
  | mysql => "mysql"
  | sqlite => "sqlite"

/-- A name as it is compared: without blanks around it and in lower case. -/
def normalName (s : String) : String :=
  String.ofList ((trim s).toList.map Char.toLower)

/-- The dialect with a name or with one of its other names. -/
def ofName? (s : String) : Option Dialect :=
  let n := normalName s
  if n ∈ ["postgres", "postgresql", "pg"] then some postgres
  else if n ∈ ["mysql", "mariadb"] then some mysql
  else if n ∈ ["sqlite", "sqlite3"] then some sqlite
  else none

end Dialect

end DataMapper.Sql
