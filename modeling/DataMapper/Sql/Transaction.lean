import DataMapper.Sql.Dialect

/-!
# Statements around transactions

How a transaction begins in each dialect, and which names a savepoint may have.
-/

namespace DataMapper.Sql

inductive Isolation where
  | readUncommitted | readCommitted | repeatableRead | serializable
  deriving DecidableEq, Repr

instance : Inhabited Isolation := ⟨.serializable⟩

def Isolation.text : Isolation → String
  | readUncommitted => "READ UNCOMMITTED"
  | readCommitted => "READ COMMITTED"
  | repeatableRead => "REPEATABLE READ"
  | serializable => "SERIALIZABLE"

/-- The level with a name in small letters, an underscore between the words. -/
def Isolation.ofName? (name : String) : Option Isolation :=
  [readUncommitted, readCommitted, repeatableRead, serializable].find? fun i =>
    (i.text.map fun c => if c = ' ' then '_' else c.toLower) == name

structure TransactionOptions where
  isolation : Isolation := .serializable
  readOnly : Bool := false
  deriving DecidableEq, Repr, Inhabited

/-- The text that opens a transaction. SQLite knows neither isolation nor access mode. -/
def TransactionOptions.beginText (o : TransactionOptions) : Dialect → String
  | .postgres =>
    "BEGIN ISOLATION LEVEL " ++ o.isolation.text ++ if o.readOnly then " READ ONLY" else ""
  | .mysql =>
    "SET TRANSACTION ISOLATION LEVEL " ++ o.isolation.text ++
      (if o.readOnly then ", READ ONLY" else ", READ WRITE") ++ "; START TRANSACTION"
  | .sqlite => "BEGIN"

/-- The name of the `n`-th savepoint that was given none. -/
def savepointName (n : Nat) : String := s!"sqlrecord_sp_{n}"

/-- A savepoint's name becomes part of a statement, so it must be a plain identifier. -/
def isSavepointName (name : String) : Bool :=
  match name.toList with
  | [] => false
  | c :: cs => (c.isAlpha || c == '_') && cs.all fun c => c.isAlphanum || c == '_'

end DataMapper.Sql
