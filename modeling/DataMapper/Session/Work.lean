import DataMapper.Config
import DataMapper.Monitor.Log
import DataMapper.Monitor.Stats
import DataMapper.Record.Mapping
import DataMapper.Session.Note

/-!
# Units of work

A unit of work runs against a workspace: a database on a server, one session of it, and the records
that are being worked on. It ends with a result or with an error, or it is interrupted when a limit
of time runs out while it waits. Nothing but waiting takes time.

## Main definitions

* `Workspace`, `Work` — the state, and what runs on it.
* `Work.pause` — waiting, the only place where work is interrupted.
* `Work.within` — work that is given a limit of time.
-/

namespace DataMapper

structure Database where
  config : Config
  server : Server := {}
  /-- The time in nanoseconds. -/
  clock : Nat := 0
  stats : Stats := {}
  reports : List Report := []
  log : List LogEntry := []
  /-- How many savepoints have been named so far. The number has no end here; 64 bits hold it below
  2 ^ 64. -/
  savepoints : Nat := 0
  /-- The random numbers that will be drawn. -/
  draws : List Nat := []

structure Session where
  /-- The connection of the open transaction. -/
  connection : Option Nat := none
  /-- The open transaction belongs to work that was interrupted. -/
  abandoned : Bool := false
  deriving DecidableEq

namespace Session

def isActive (s : Session) : Bool := s.connection.isSome && !s.abandoned

end Session

structure Workspace where
  database : Database
  session : Session := {}
  /-- When the limits of time run out, the innermost first. -/
  deadlines : List Nat := []
  store : TextStore := .empty
  records : List (String × Record) := []
  notes : List Note := []

def Workspace.atTime (w : Workspace) (time : Nat) : Workspace :=
  { w with database := { w.database with clock := time } }

/-- How work ends. Interrupted work names the limit that ran out by the number of limits around it. -/
inductive Ending (α : Type) where
  | done (result : α)
  | failed (error : Error)
  | interrupted (level : Nat)

def Work (α : Type) : Type := Workspace → Ending α × Workspace

namespace Work

variable {α β : Type}

protected def pure (a : α) : Work α := fun w => (.done a, w)

protected def bind (x : Work α) (f : α → Work β) : Work β := fun w =>
  match x w with
  | (.done a, w) => f a w
  | (.failed e, w) => (.failed e, w)
  | (.interrupted l, w) => (.interrupted l, w)

instance : Monad Work where
  pure := Work.pure
  bind := Work.bind

@[simp] theorem pure_apply (a : α) (w : Workspace) : (Pure.pure a : Work α) w = (.done a, w) := rfl

@[simp] theorem bind_apply (x : Work α) (f : α → Work β) (w : Workspace) :
    (x >>= f) w =
      match x w with
      | (.done a, w) => f a w
      | (.failed e, w) => (.failed e, w)
      | (.interrupted l, w) => (.interrupted l, w) := rfl

def fail (e : Error) : Work α := fun w => (.failed e, w)

def ofExcept : Except Error α → Work α
  | .ok a => pure a
  | .error e => fail e

def read : Work Workspace := fun w => (.done w, w)

def modify (f : Workspace → Workspace) : Work Unit := fun w => (.done (), f w)

def modifyDatabase (f : Database → Database) : Work Unit :=
  modify fun w => { w with database := f w.database }

def modifyServer (f : Server → Server) : Work Unit :=
  modifyDatabase fun d => { d with server := f d.server }

def setSession (s : Session) : Work Unit := modify fun w => { w with session := s }

def config : Work Config := return (← read).database.config

def options : Work BuildOptions := return (← config).buildOptions

/-- Work with its error as a result. An interruption stays one. -/
def attempt (x : Work α) : Work (Except Error α) := fun w =>
  match x w with
  | (.done a, w) => (.done (.ok a), w)
  | (.failed e, w) => (.done (.error e), w)
  | (.interrupted l, w) => (.interrupted l, w)

/-! ## Time -/

/-- The innermost limit that has run out, by the number of limits around it. -/
def expiredLevel (now : Nat) : List Nat → Nat
  | [] => 0
  | d :: ds => if d ≤ now then ds.length else expiredLevel now ds

/-- Let time pass. A limit that runs out before the end of the wait interrupts it; one that runs out
at its very end does not. -/
def pause (nanos : Nat) : Work Unit := fun w =>
  let wake := w.database.clock + nanos
  let limit := w.deadlines.foldl min wake
  if nanos = 0 || wake ≤ limit then (.done (), w.atTime wake)
  else
    let now := max w.database.clock limit
    (.interrupted (expiredLevel now w.deadlines), w.atTime now)

/-- Run work for at most a duration. Without a result it was interrupted at its end. -/
def within (nanos : Nat) (x : Work α) : Work (Option α) := fun w =>
  let limit := w.database.clock + nanos
  let (ending, after) := x { w with deadlines := limit :: w.deadlines }
  let after := { after with deadlines := w.deadlines }
  match ending with
  | .done a => (.done (some a), after)
  | .failed e => (.failed e, after)
  | .interrupted level =>
    if level = w.deadlines.length then (.done none, after) else (.interrupted level, after)

/-- Draw a number from the least to the most, the least where no random number is left. -/
def draw (least most : Nat) : Work Nat := do
  match (← read).database.draws with
  | [] => return least
  | n :: draws =>
    modifyDatabase fun d => { d with draws }
    return least + n % (most - least + 1)

/-! ## Statements -/

def logEntry (level : LogLevel) (message : String) (fields : List (String × LogValue)) : Work Unit :=
  modifyDatabase fun d => { d with log := d.log ++ [⟨level, message, fields, .session⟩] }

def warn (message : String) (fields : List (String × LogValue)) : Work Unit :=
  logEntry .warn message fields

def errorField (e : Error) : String × LogValue := ("error", .text e.message)

/-- Tell the monitors. -/
def report (r : Report) : Work Unit :=
  modifyDatabase fun d =>
    let entries := match r with
      | .completed c duration o =>
        [({ slowThreshold := d.config.slowThreshold : StatementLog }).entry c duration o]
      | .slow .. => []
    { d with reports := d.reports ++ [r], stats := d.stats.observe r, log := d.log ++ entries }

/-- Send a statement and wait for the reply. -/
def send (connection : Nat) (sql : String) (parameters : List Value) : Work (Option Reply) := do
  let w ← read
  let (reply, server) := w.database.server.send connection sql parameters
  modifyServer fun _ => server
  pause server.latency
  return reply

/-- Send a statement, report what it led to, and read its reply. -/
def run (connection : Nat) (sql : String) (parameters : List Value) (tag : Option String)
    (interpret : Option Reply → Except Error α) (summary : α → Outcome) : Work α := do
  let context : StatementContext := { sql, parameters, tag }
  let started := (← read).database.clock
  let result := interpret (← send connection sql parameters)
  let elapsed := (← read).database.clock - started
  report (.completed context elapsed (match result with
    | .ok a => summary a
    | .error e => .ofMessage e.message))
  if (← config).slowThreshold < elapsed then report (.slow context elapsed)
  ofExcept result

def runExecute (connection : Nat) (sql : String) (parameters : List Value)
    (tag : Option String) : Work Nat :=
  run connection sql parameters tag Reply.affectedRows .affected

def runQuery (connection : Nat) (sql : String) (parameters : List Value)
    (tag : Option String) : Work (List Row) :=
  run connection sql parameters tag Reply.resultRows fun rows => .rows rows.length

def runBatch (connection : Nat) (sql : String) (tag : Option String) : Work Unit :=
  run connection sql [] tag Reply.completion fun _ => .done

end Work

end DataMapper
