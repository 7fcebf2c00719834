import DataMapper.Query.Plan
import DataMapper.Session.Records
import DataMapper.Session.Transactions

/-!
# Commands

Commands for a session as data, and what each of them does. A note is made of every command that is
carried out to its end; those inside others come first.

## Main definitions

* `Action`, `Command` — single operations, and work made of them.
* `Command.perform` — carry a command out.
* `Command.session` — a whole session of commands.
-/

namespace DataMapper

open Sql

/-- A single operation. -/
inductive Action where
  | queryRows (q : QueryPlan)
  | query (t : RecordType) (q : QueryPlan)
  | queryOne (t : RecordType) (q : QueryPlan)
  | queryOptional (t : RecordType) (q : QueryPlan)
  | count (q : QueryPlan)
  /-- Load a record, and keep it under a name. -/
  | load (t : RecordType) (id : Int64) (name : Option String)
  | execute (q : QueryPlan)
  | executeSql (sql : String) (parameters : List Value)
  | batch (sql : String)
  | createTable (t : RecordType)
  | store (name : String)
  | insert (name : String)
  | update (name : String)
  | delete (name : String)
  | refresh (name : String)
  | updateFields (name : String) (fields : List String)
  | set (name : String) (index : Nat) (value : Value)
  | new (name : String) (t : RecordType)
  | display (name : String)
  | begin (o : TransactionOptions)
  | commit
  | rollback
  | savepoint (name : String)
  | rollbackTo (name : String)
  | release (name : String)
  | fail (e : Error)
  | sleep (nanos : Nat)
  | script (rules : List Rule)
  | latency (nanos : Nat)
  | refuse (message : Option String)
  | stats
  | resetStats
  | newSession

inductive Command where
  | action (a : Action)
  /-- A command whose failure does not end the work around it. -/
  | caught (c : Command)
  | inSavepoint (body : List Command)
  | transaction (o : TransactionOptions) (limit : Option Nat) (body : List Command)
  | retry (o : TransactionOptions) (limit : Option Nat) (body : List Command)

namespace Action

/-- The word for an operation. -/
def word : Action → String
  | queryRows _ => "query_rows"
  | query .. => "query"
  | queryOne .. => "query_one"
  | queryOptional .. => "query_opt"
  | count _ => "count"
  | load .. => "load"
  | execute _ => "execute"
  | executeSql .. => "execute_sql"
  | batch _ => "batch"
  | createTable _ => "create_table"
  | store _ => "store"
  | insert _ => "insert"
  | update _ => "update"
  | delete _ => "delete"
  | refresh _ => "refresh"
  | updateFields .. => "update_fields"
  | set .. => "set"
  | new .. => "new"
  | display _ => "show"
  | begin _ => "begin"
  | commit => "commit"
  | rollback => "rollback"
  | savepoint _ => "savepoint"
  | rollbackTo _ => "rollback_to"
  | release _ => "release"
  | fail _ => "fail"
  | sleep _ => "sleep"
  | script _ => "script"
  | latency _ => "latency"
  | refuse _ => "fail_acquire"
  | stats => "stats"
  | resetStats => "reset_stats"
  | newSession => "new_session"

/-- The name of the record that an operation is about. -/
def recordName? : Action → Option String
  | load _ _ name => name
  | store name | insert name | update name | delete name | refresh name => some name
  | updateFields name _ | set name _ _ | new name _ | display name => some name
  | _ => none

open Work

def built (q : QueryPlan) : Work Query := do ofExcept (q.build (← options))

def valuesOf (r : Record) : Work (List Value) := return r.values (← Session.texts)

def perform : Action → Work Answer
  | queryRows q => return .rows (← Session.queryRows (← built q))
  | query t q => return .records (← (← Session.query t (← built q)).mapM valuesOf)
  | queryOne t q => return .records [← valuesOf (← Session.queryOne t (← built q))]
  | queryOptional t q =>
    return .records (← (← Session.queryOptional t (← built q)).toList.mapM valuesOf)
  | count q => return .integer (← Session.count (← built q))
  | load t id name => do
    let r ← Session.load t id
    if let some name := name then Session.putRecord name r
    return .record (← valuesOf r)
  | execute q => return .number (← Session.execute (← built q))
  | executeSql sql parameters => return .number (← Session.executeSql sql parameters)
  | batch sql => do Session.batchExecute sql; return .nothing
  | createTable t => do Session.createTable t; return .nothing
  | store name => do Session.store name; return .nothing
  | insert name => do Session.insert name; return .nothing
  | update name => do Session.update name; return .nothing
  | delete name => do Session.delete name; return .nothing
  | refresh name => do Session.refresh name; return .nothing
  | updateFields name fields => do Session.updateFields name fields; return .nothing
  | set name index value => do
    Session.change name fun st r => match r.set st index value with
      | .ok (r, st) => ⟨.ok (), r, st⟩
      | .error e => ⟨.error (.other e.message), r, st⟩
    return .nothing
  | new name t => do
    let (r, st) := Record.fresh (← Session.texts) t
    modify fun w => { w with store := st }
    Session.putRecord name r
    return .nothing
  | display _ => return .nothing
  | begin o => do Session.start o; return .nothing
  | commit => do Session.commit; return .nothing
  | rollback => do Session.rollback; return .nothing
  | savepoint name => do Session.savepointCommand Session.setSavepoint name; return .nothing
  | rollbackTo name => do Session.savepointCommand Session.rollbackToSavepoint name; return .nothing
  | release name => do Session.savepointCommand Session.releaseSavepoint name; return .nothing
  | fail e => Work.fail e
  | sleep nanos => do pause nanos; return .nothing
  | script rules => do modifyServer (·.addRules rules); return .nothing
  | latency nanos => do modifyServer fun s => { s with latency := nanos }; return .nothing
  | refuse message => do modifyServer fun s => { s with refusal := message }; return .nothing
  | stats => return .stats (← read).database.stats
  | resetStats => do modifyDatabase fun d => { d with stats := {} }; return .nothing
  | newSession => do Session.leave true; return .nothing

end Action

open Work

/-- Note what has happened since the last note. -/
def Work.note (command : String) (name : Option String)
    (result : Option (Except Error Answer)) : Work Unit :=
  modify fun w =>
    let d := w.database
    { w with notes := w.notes ++ [
        { command, result
          sent := d.server.sent.drop (w.notes.flatMap (·.sent)).length
          reports := d.reports.drop (w.notes.flatMap (·.reports)).length
          log := d.log.drop (w.notes.flatMap (·.log)).length
          acquired := d.server.acquired
          released := d.server.released.length
          discarded := d.server.discarded.length
          active := w.session.isActive
          record := name.map fun n => (w.records.lookup n).map fun r => r.values w.store }] }

/-- Carry work out and note its result. -/
def Work.noted (command : String) (name : Option String) (x : Work Answer) : Work Unit := do
  let result ← attempt x
  note command name (some result)
  let _ ← ofExcept result

/-- Work that has a limit of time, if one is given. -/
def Work.limited (limit : Option Nat) (x : Work Nat) : Work Answer := do
  match limit with
  | none => return .number (← x)
  | some nanos =>
    match ← within nanos x with
    | some n => return .number n
    | none => return .interrupted

namespace Command

mutual

/-- Carry a command out. -/
def perform : Command → Work Unit
  | action a => noted a.word a.recordName? a.perform
  | caught c => do let _ ← attempt c.perform
  | inSavepoint body => noted "in_savepoint" none do
    Session.inSavepoint (performAll body)
    return .nothing
  | transaction o limit body => noted "transaction" none <| limited limit do
    Session.transaction o (performAll body)
    return 1
  | retry o limit body => noted "retry" none <| limited limit do
    return (← Session.retry o (performAll body)).2

/-- Carry commands out up to the first that fails. -/
def performAll : List Command → Work Unit
  | [] => return
  | c :: cs => do
    c.perform
    performAll cs

end

/-- Carry all commands out, failures notwithstanding, and end the session. -/
def session (commands : List Command) (canSend : Bool) : Work Unit := do
  performAll (commands.map caught)
  Session.leave canSend
  note "end" none none

end Command

end DataMapper
