import DataMapper.Session.Work

/-!
# Sessions and their connections

Inside a transaction every statement of a session goes through the connection of the transaction;
outside, each operation acquires a connection of its own and releases it at its end. A transaction
whose work was interrupted is rolled back before anything else is done.

## Main definitions

* `Session.recover` — roll back an abandoned transaction.
* `Session.onConnection` — an operation on the right connection.
* `Session.leave` — the end of a session.
-/

namespace DataMapper.Session

open Work

variable {α : Type}

def rollbackText : String := "ROLLBACK"

def commitText : String := "COMMIT"

/-- Acquire a connection. -/
def acquire : Work Nat := do
  let (connection, server) ← ofExcept (← read).database.server.acquire
  modifyServer fun _ => server
  return connection

def release (connection : Nat) : Work Unit := modifyServer (·.release connection)

def discard (connection : Nat) : Work Unit := modifyServer (·.discard connection)

/-- Take the connection of the open transaction out of the session. -/
def takeConnection : Work (Option Nat) := do
  let session := (← read).session
  setSession { session with connection := none }
  return session.connection

/-- Roll back a transaction whose work was interrupted, and say whether there was one. A connection
on which that fails may still be inside the transaction, so it is thrown away. -/
def recover : Work Bool := do
  let session := (← read).session
  if !session.abandoned then return false
  setSession { session with abandoned := false }
  match ← takeConnection with
  | none => return false
  | some connection =>
    warn "transaction body was cancelled; rolling back its transaction" []
    match ← attempt (runBatch connection rollbackText none) with
    | .ok () => release connection
    | .error e =>
      warn "rollback of cancelled transaction failed; discarding the connection" [errorField e]
      discard connection
    return true

/-- Run an operation on the connection of the open transaction, or on one acquired for it. -/
def onConnection (operation : Nat → Work α) : Work α := do
  let _ ← recover
  match (← read).session.connection with
  | some connection => operation connection
  | none =>
    let connection ← acquire
    let result ← attempt (operation connection)
    release connection
    ofExcept result

/-- Roll back on a connection that no session has any more. -/
def rollBackAbandoned (connection : Nat) : Work Unit := do
  match Reply.completion (← send connection rollbackText []) with
  | .ok () => release connection
  | .error e =>
    warn "rollback of abandoned transaction failed; discarding the connection" [errorField e]
    discard connection

/-- End the session. An open transaction is rolled back, unless nothing can be sent any more. -/
def leave (canSend : Bool) : Work Unit := do
  let connection ← takeConnection
  setSession {}
  match connection, canSend with
  | none, _ => return
  | some connection, true =>
    warn "session dropped with an open transaction; rolling back" []
    rollBackAbandoned connection
  | some connection, false =>
    warn ("session dropped with an open transaction outside a runtime; " ++
      "discarding the connection") []
    discard connection

end DataMapper.Session
