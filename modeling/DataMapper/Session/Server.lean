import DataMapper.Error
import DataMapper.Row

/-!
# Scripted servers

A server hands out connections and answers the statements that are sent on them as its script says.
It keeps every statement with its reply, and what has become of every connection.

## Main definitions

* `Server.acquire`, `Server.release`, `Server.discard` — the life of a connection.
* `Server.send` — a statement and its reply.
-/

namespace DataMapper

/-- What the server answers a statement with. -/
inductive Reply where
  | rows (rows : List Row)
  | affected (n : Nat)
  | failure (e : Error)

/-- An answer for the statements that contain a text, for a number of times or for ever. -/
structure Rule where
  needle : String
  reply : Reply
  remaining : Option Nat

/-- Does the text contain the other one? -/
def containsText (needle : List Char) : List Char → Bool
  | [] => needle.isEmpty
  | c :: cs => needle.isPrefixOf (c :: cs) || containsText needle cs

namespace Rule

def applies (r : Rule) (sql : String) : Bool :=
  r.remaining != some 0 && containsText r.needle.toList sql.toList

/-- The rule after it has been used once more. -/
def used (r : Rule) : Rule := { r with remaining := r.remaining.map (· - 1) }

/-- The reply of the first rule that applies, and the rules after that. -/
def answer (sql : String) : List Rule → Option Reply × List Rule
  | [] => (none, [])
  | r :: rs =>
    if r.applies sql then (some r.reply, r.used :: rs)
    else
      let (reply, rs) := answer sql rs
      (reply, r :: rs)

end Rule

namespace Reply

/-- How many rows a statement has changed. Without a rule for it, it changes none. -/
def affectedRows : Option Reply → Except Error Nat
  | none => .ok 0
  | some (affected n) => .ok n
  | some (rows rs) => .ok rs.length
  | some (failure e) => .error e

/-- The rows of a query. Without a rule for it, it has none. -/
def resultRows : Option Reply → Except Error (List Row)
  | none | some (affected _) => .ok []
  | some (rows rs) => .ok rs
  | some (failure e) => .error e

/-- Whether statements without a result have succeeded. -/
def completion : Option Reply → Except Error Unit
  | some (failure e) => .error e
  | _ => .ok ()

/-- The failure of a transaction that has met another one. -/
def conflict : Reply :=
  failure (.ofState "40001" "could not serialize access due to concurrent update")

end Reply

structure SentStatement where
  connection : Nat
  sql : String
  parameters : List Value
  /-- What the server answered; nothing where no rule applied. -/
  reply : Option Reply

structure Server where
  /-- The latest rule comes first. -/
  rules : List Rule := []
  sent : List SentStatement := []
  /-- Connections are numbered from 1 on. -/
  acquired : Nat := 0
  released : List Nat := []
  discarded : List Nat := []
  /-- How long every statement takes. -/
  latency : Nat := 0
  /-- Why no connection is to be had, if none is. -/
  refusal : Option String := none

namespace Server

variable (s : Server)

/-- A new connection. -/
def acquire : Except Error (Nat × Server) :=
  match s.refusal with
  | some message => .error (.connection message)
  | none => .ok (s.acquired + 1, { s with acquired := s.acquired + 1 })

/-- Hand a connection back, so that others can use it. -/
def release (connection : Nat) : Server := { s with released := connection :: s.released }

/-- Throw a connection away. -/
def discard (connection : Nat) : Server := { s with discarded := connection :: s.discarded }

def send (connection : Nat) (sql : String) (parameters : List Value) : Option Reply × Server :=
  let (reply, rules) := Rule.answer sql s.rules
  (reply, { s with rules, sent := s.sent ++ [⟨connection, sql, parameters, reply⟩] })

/-- Add rules; the last of them becomes the first to be tried. -/
def addRules (rules : List Rule) : Server := { s with rules := rules.reverse ++ s.rules }

end Server

end DataMapper
