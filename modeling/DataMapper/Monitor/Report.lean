import DataMapper.Keyed
import DataMapper.Sql.Literal
import DataMapper.Sql.StatementType

/-!
# Reports on statements

Every statement that is sent is reported to monitors with its context, the time it took and its
outcome.
-/

namespace DataMapper

open Sql Text

structure StatementContext where
  sql : String
  parameters : List Value
  /-- What the statement is for. -/
  tag : Option String := none
  fields : KeyMap String := .empty

namespace StatementContext

def type (c : StatementContext) : StatementType := .ofText c.sql

/-- The parameters as literals between brackets. -/
def parametersText (c : StatementContext) : String :=
  "[" ++ String.intercalate ", " (c.parameters.map renderLiteral) ++ "]"

end StatementContext

/-- How many bytes of an error's message are kept. -/
def maxMessageBytes : Nat := 512

/-- The text, or what fits of it within a number of bytes and three dots. -/
def shorten (limit : Nat) (s : String) : String :=
  if s.utf8ByteSize ≤ limit then s else takeBytes limit s ++ "..."

/-- What a statement has led to. -/
inductive Outcome where
  | rows (n : Nat)
  | affected (n : Nat)
  | done
  | failed (message : String)
  deriving DecidableEq, Repr

namespace Outcome

/-- The outcome of a failure, with no more of its message than monitors keep. -/
def ofMessage (m : String) : Outcome := failed (shorten maxMessageBytes m)

def text : Outcome → String
  | rows n => s!"{n} rows"
  | affected n => s!"{n} affected"
  | done => "ok"
  | failed m => "error: " ++ m

def isFailure : Outcome → Bool
  | failed _ => true
  | _ => false

end Outcome

/-- What monitors are told; durations are nanoseconds. -/
inductive Report where
  | completed (context : StatementContext) (duration : Nat) (outcome : Outcome)
  | slow (context : StatementContext) (duration : Nat)

end DataMapper
