import DataMapper.Postgres.Decoding
import DataMapper.Sql.Lexical

/-!
# Calls of a PostgreSQL server

A statement is described by the server first, then its parameters are bound to the types that it
has named, and then the server answers. Text without parameters is sent as it is.

## Main definitions

* `Server` — how a server describes and answers one statement.
* `call` — one call, with what was sent and bound.
-/

namespace DataMapper.Postgres

open Sql

structure Failure where
  code : String
  message : String
  constraint : Option String

/-- The error that a failure is reported as. A violated constraint is named; a failure of any other
kind stays what it is. -/
def Failure.error (f : Failure) : Error :=
  let named := f.constraint.getD "unknown" ++ ": " ++ f.message
  match Error.ofState f.code f.message with
  | .uniqueViolation _ => .uniqueViolation named
  | .foreignKeyViolation _ => .foreignKeyViolation named
  | .checkViolation _ => .checkViolation named
  | .serializationConflict m => .serializationConflict m
  | _ => .query (some f.code)

structure Server where
  parameterTypes : List ColumnType
  columns : List (String × ColumnType)
  rows : List (List (Option (List UInt8)))
  affected : Nat
  failure : Option Failure

inductive Method where
  | execute
  | query
  | batch
  /-- As a batch, with failures as the server reports them. -/
  | raw
  deriving DecidableEq, Repr

inductive Answer where
  | affected (n : Nat)
  | rows (rows : List Row)
  | done

structure Exchange where
  sent : List String
  bound : List (Option (List UInt8))
  result : Except Error Answer

/-- The parameters in the types that the server has named, one for each. -/
def bindAll (types : List ColumnType) (parameters : List Value) :
    Except Error (List (Option (List UInt8))) :=
  if types.length ≠ parameters.length then .error (.query none)
  else
    match (types.zip parameters).mapM fun (t, v) => bind t v with
    | .ok cells => .ok cells
    | .error _ => .error (.query none)

/-- What the server answers, where its failures are turned into errors by `classify`. -/
def Server.answer (s : Server) (classify : Failure → Error) (a : Except Error Answer) :
    Except Error Answer :=
  match s.failure with
  | some f => .error (classify f)
  | none => a

def call (s : Server) (m : Method) (sql : String) (parameters : List Value) : Exchange :=
  let prepared (a : Except Error Answer) : Exchange :=
    let sent := [numberPlaceholders sql]
    match bindAll s.parameterTypes parameters with
    | .error e => ⟨sent, [], .error e⟩
    | .ok cells => ⟨sent, cells, s.answer Failure.error a⟩
  match m with
  | .execute => prepared (.ok (.affected s.affected))
  | .query => prepared ((decodeRows s.columns s.rows).map .rows)
  | .batch => ⟨[sql], [], s.answer Failure.error (.ok .done)⟩
  | .raw => ⟨[sql], [], s.answer (fun f => .query (some f.code)) (.ok .done)⟩

end DataMapper.Postgres
