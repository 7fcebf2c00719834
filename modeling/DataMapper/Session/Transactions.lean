import DataMapper.Session.Connections
import DataMapper.Sql.Transaction

/-!
# Transactions

A transaction is opened and ended by hand, or around work: then it is committed if the work
succeeds and rolled back if it fails. Inside it, savepoints do the same for parts of the work.

## Main definitions

* `Session.start`, `Session.finish`, `Session.savepointCommand` — by hand.
* `Session.transaction`, `Session.inSavepoint` — around work.
* `Session.retry` — a transaction that is tried again when it meets another one.
-/

namespace DataMapper.Session

open Work Sql

variable {α : Type}

/-- Open a transaction on a connection of its own. -/
def start (o : TransactionOptions) : Work Unit := do
  let _ ← recover
  if (← read).session.connection.isSome then fail (.transaction .alreadyActive)
  let connection ← acquire
  match ← attempt (runBatch connection (o.beginText (← config).dialect) none) with
  | .ok () => setSession { (← read).session with connection := some connection }
  | .error e =>
    release connection
    fail e

/-- End the open transaction with a statement. Its connection is released even if that fails. An
abandoned transaction has been rolled back already. -/
def finish (sql : String) : Work Unit := do
  let recovered ← recover
  if recovered && sql == rollbackText then return
  match ← takeConnection with
  | none => fail (.transaction (.inactive sql))
  | some connection =>
    let result ← attempt (runBatch connection sql none)
    release connection
    ofExcept result

def commit : Work Unit := finish commitText

def rollback : Work Unit := finish rollbackText

/-! ## Savepoints -/

def setSavepoint : String := "SAVEPOINT"

def rollbackToSavepoint : String := "ROLLBACK TO SAVEPOINT"

def releaseSavepoint : String := "RELEASE SAVEPOINT"

def savepointCommand (command name : String) : Work Unit := do
  if !isSavepointName name then fail (.validation (.savepointName name))
  let _ ← recover
  let sql := command ++ " " ++ name
  match (← read).session.connection with
  | none => fail (.transaction (.inactive sql))
  | some connection => runBatch connection sql none

/-- A name that no other savepoint has, as long as there are fewer than 2 ^ 64. -/
def nextSavepoint : Work String := do
  let n := (← read).database.savepoints
  modifyDatabase fun d => { d with savepoints := n + 1 }
  return savepointName n

/-- Run work inside a savepoint, and undo it if it fails. The transaction stays open. -/
def inSavepoint (body : Work α) : Work α := do
  let name ← nextSavepoint
  savepointCommand setSavepoint name
  match ← attempt body with
  | .ok a =>
    savepointCommand releaseSavepoint name
    return a
  | .error e =>
    match ← attempt (savepointCommand rollbackToSavepoint name) with
    | .ok () => fail e
    | .error e' =>
      warn "rollback to savepoint failed" [errorField e', ("savepoint", .text name)]
      fail e

/-! ## Transactions around work -/

/-- End the transaction as the work inside it has ended, if it is still open. -/
def settle (outcome : Except Error α) : Work α := do
  let isOpen := (← read).session.connection.isSome
  match outcome with
  | .ok a =>
    if isOpen then commit
    return a
  | .error e =>
    if isOpen then
      match ← attempt rollback with
      | .ok () => fail e
      | .error e' => warn "rollback failed" [errorField e']
    fail e

/-- Work whose interruption leaves the transaction of the session abandoned. -/
def marked (x : Work α) : Work α := fun w =>
  match x w with
  | (.interrupted l, w) => (.interrupted l, { w with session.abandoned := true })
  | r => r

/-- Run work in the open transaction, and end that. -/
def conclude (body : Work α) : Work α := marked do settle (← attempt body)

/-- Run work in a transaction of its own. -/
def transaction (o : TransactionOptions) (body : Work α) : Work α := do
  start o
  conclude body

/-- Whole milliseconds, at most as many as 64 bits hold. -/
def wholeMillis (nanos : Nat) : Nat := min (nanos / 1000000) (2 ^ 64 - 1)

def shortestPause (c : Config) : Nat := wholeMillis c.pauseMin

def longestPause (c : Config) : Nat := max (shortestPause c) (wholeMillis c.pauseMax)

/-- The pause before another attempt, which is drawn in whole milliseconds. -/
def retryPause : Work Nat := do
  let c ← config
  let millis ← draw (shortestPause c) (longestPause c)
  return millis * 1000000

/-- Attempts from number `number` on, at most `left` of them after the first, when the work has been
run `runs` times before. The result is that of the first attempt that succeeds. -/
def attempts (o : TransactionOptions) (body : Work α) (number runs left : Nat) :
    Work (α × Nat) := do
  let begun ← attempt (start o)
  let outcome ← match begun with
    | .ok () => attempt (conclude body)
    | .error e => pure (.error e)
  let runs := if begun.isOk then runs + 1 else runs
  match outcome with
  | .ok a => return (a, runs)
  | .error e =>
    if !e.isConflict then fail e
    else
      match left with
      | 0 =>
        warn "giving up on conflicting transaction" [("attempts", .number number), errorField e]
        fail (.retriesExhausted number e)
      | left + 1 =>
        logEntry .debug "retrying conflicting transaction"
          [("attempt", .number number), errorField e]
        pause (← retryPause)
        attempts o body (number + 1) runs left

/-- Run work in a transaction, and all of it again when the transaction meets another one. The
result comes with the number of times that the work was run. -/
def retry (o : TransactionOptions) (body : Work α) : Work (α × Nat) := do
  attempts o body 1 0 ((← config).maxAttempts - 1)

end DataMapper.Session
