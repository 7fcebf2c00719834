import DataMapper.Proofs.Session.Outcomes

/-!
# Transactions around work

A transaction around work ends as the work has ended: it is committed if the work succeeds and
rolled back if it fails, unless the work has ended it itself. Whatever the server replies, none is
left open, and the caller learns of the failure that decided.

## Main definitions

* `Session.Concluded` — how work inside a transaction, the statements that end the transaction, and
  the result of the whole belong together.
-/

namespace DataMapper.Session

open Work

variable {α : Type}

/-- Work inside a transaction has left this result and this standing; behind that `own` was sent,
and the whole has the result `r`. -/
structure Concluded (result : Except Error α) (s : Standing) (own : List SentStatement)
    (r : Except Error α) (t : Standing) : Prop where
  closed : t.session.connection = none
  sent : t.ledger.sent = s.ledger.sent ++ own
  acquired : t.ledger.acquired = s.ledger.acquired
  /-- The whole succeeds only with the work, and with a commit unless the work has ended the
  transaction itself. -/
  ok : ∀ a, r = .ok a → result = .ok a ∧
    (s.session.connection = none ∨ ∃ c st, s.session.connection = some c ∧ own = [st] ∧
      st.connection = c ∧ st.sql = commitText ∧ st.failed = false)
  /-- The failure of the work is that of the whole, whatever becomes of the rollback. -/
  failed : ∀ e, result = .error e → r = .error e ∧ ∀ st ∈ own, st.sql ≠ commitText
  rolledBack : ∀ e c, result = .error e → s.session.connection = some c →
    ∃ st, own = [st] ∧ st.connection = c ∧ st.sql = rollbackText
  /-- The reply to the commit decides. -/
  committed : ∀ a c, result = .ok a → s.session = ⟨some c, false⟩ →
    ∃ st, own = [st] ∧ st.connection = c ∧ st.sql = commitText ∧
      r = (Reply.completion st.reply).map fun _ => a
  /-- Work may begin another transaction and have it interrupted; that is not committed. -/
  abandoned : ∀ a c, result = .ok a → s.session = ⟨some c, true⟩ →
    r = .error (.transaction (.inactive commitText)) ∧
      ∃ st, own = [st] ∧ st.connection = c ∧ st.sql = rollbackText
  already : s.session.connection = none → own = [] ∧ r = result ∧ t = s

theorem rollbackText_ne_commitText : rollbackText ≠ commitText := by decide

/-- An open transaction that is rolled back sends the rollback, whether it was abandoned or not. -/
theorem Finished.exists_rollback {s t : Standing} {r : Except Error Unit}
    (h : Finished rollbackText s r t) (isOpen : s.session.connection.isSome = true) :
    ∃ c st, s.session.connection = some c ∧ st.connection = c ∧ st.sql = rollbackText ∧
      t.ledger.sent = s.ledger.sent ++ [st] ∧ t.ledger.acquired = s.ledger.acquired ∧
      t.session.connection = none := by
  cases h with
  | @ended c l st on text => exact ⟨c, st, rfl, on, text, rfl, rfl, rfl⟩
  | @recovered c l st on text =>
    exact ⟨c, st, rfl, on, text, Ledger.sent_putAway l st, Ledger.acquired_putAway l st, rfl⟩
  | inactive => cases isOpen

theorem Settled.concluded {result r : Except Error α} {s t : Standing}
    (h : Settled result s r t) : ∃ own, Concluded result s own r t := by
  cases h with
  | closed =>
    refine ⟨[], rfl, (List.append_nil _).symm, rfl, fun a fine => ⟨fine, .inl rfl⟩, ?_, nofun,
      nofun, nofun, fun _ => ⟨rfl, rfl, rfl⟩⟩
    exact fun e failed => ⟨failed, by simp⟩
  | @committed a _ _ _ finished isOpen =>
    cases finished with
    | @ended c l st on text =>
      refine ⟨[st], rfl, rfl, rfl, ?_, nofun, nofun, ?_, nofun, nofun⟩
      · intro b fine
        cases answered : Reply.completion st.reply with
        | ok =>
          rw [answered] at fine
          cases fine
          exact ⟨rfl, .inr ⟨c, st, rfl, rfl, on, text, not_failed_of_ok answered.symm⟩⟩
        | error e =>
          rw [answered] at fine
          cases fine
      · rintro _ _ ⟨⟩ ⟨⟩
        exact ⟨st, rfl, on, text, rfl⟩
    | @recovered c l st on text =>
      rw [if_neg rollbackText_ne_commitText.symm]
      refine ⟨[st], rfl, Ledger.sent_putAway l st, Ledger.acquired_putAway l st, nofun, nofun,
        nofun, nofun, ?_, nofun⟩
      rintro _ _ - ⟨⟩
      exact ⟨rfl, st, rfl, on, text⟩
    | inactive => cases isOpen
  | @rolledBack e s t r finished isOpen =>
    obtain ⟨c, st, held, on, text, sent, acquired, closed⟩ := finished.exists_rollback isOpen
    refine ⟨[st], closed, sent, acquired, nofun, ?_, ?_, nofun, nofun, ?_⟩
    · rintro _ ⟨⟩
      refine ⟨rfl, ?_⟩
      simpa [text] using rollbackText_ne_commitText
    · rintro _ d ⟨⟩ there
      rw [held] at there
      cases there
      exact ⟨st, rfl, on, text⟩
    · intro shut
      rw [held] at shut
      cases shut

/-! ## The whole -/

theorem marked_eq_ofExcept {x : Work α} {w v : Workspace} {r : Except Error α} :
    marked x w = (.ofExcept r, v) ↔ x w = (.ofExcept r, v) := by
  unfold marked
  generalize x w = first
  rcases first with ⟨a | e | l, w'⟩ <;> cases r <;> simp [Ending.ofExcept]

/-- The work is run once, and the transaction is ended as it has ended. -/
theorem concluded_of_conclude {body : Work α} {w v : Workspace} {r : Except Error α}
    (run : conclude body w = (.ofExcept r, v)) :
    ∃ result w' own, body w = (.ofExcept result, w') ∧
      Concluded result w'.standing own r v.standing := by
  rcases bind_eq_ofExcept (marked_eq_ofExcept.1 run) with ⟨e, failed, -⟩ | ⟨result, w', ran, run⟩
  · exact absurd failed attempt_ne_failed
  · have settled := (ends_settle (I := fun _ => True) result fun _ _ _ _ => trivial).of_run run
    obtain ⟨own, conclusion⟩ := settled.concluded
    exact ⟨result, w', own, attempt_eq_done.1 ran, conclusion⟩

/-- A session has no second transaction. -/
theorem start_of_active {w : Workspace} (o : Sql.TransactionOptions)
    (active : w.session.isActive = true) :
    start o w = (.failed (.transaction .alreadyActive), w) := by
  obtain ⟨held, present⟩ : w.session.connection.isSome = true ∧ w.session.abandoned = false := by
    simpa [Session.isActive] using active
  have first : recover w = (.done false, w) := recover_of_present present
  simp [start, first, Work.read, held, Work.fail]

theorem opened_of_start {o : Sql.TransactionOptions} {w v : Workspace} {r : Except Error Unit}
    (run : start o w = (.ofExcept r, v)) :
    ∃ b s, Recovered w.standing b s ∧ Opened o s r v.standing :=
  (ends_start (I := fun _ => True) o fun _ _ => trivial).of_run run

/-- An attempt to open a transaction succeeds with an open transaction, or leaves none. -/
theorem session_of_start {o : Sql.TransactionOptions} {w v : Workspace} {r : Except Error Unit}
    (inactive : w.session.isActive = false) (run : start o w = (.ofExcept r, v)) :
    (r = .ok () ∧ ∃ c, v.session = ⟨some c, false⟩) ∨ (∃ e, r = .error e) ∧ v.session = {} := by
  obtain ⟨b, s, recovered, opened⟩ := opened_of_start run
  exact opened.session_eq (recovered.session_eq inactive)

/-- A transaction around work that comes to its end leaves none open. It fails to begin, or the work
is run once inside it, and the whole is concluded as the work has ended. Where another transaction
is open, nothing happens. -/
theorem transaction_concluded (o : Sql.TransactionOptions) (body : Work α) (w : Workspace) :
    (w.session.isActive = true →
      transaction o body w = (.failed (.transaction .alreadyActive), w)) ∧
    ∀ r v, w.session.isActive = false → transaction o body w = (.ofExcept r, v) →
      v.session.connection = none ∧
      ((∃ e, start o w = (.failed e, v) ∧ r = .error e) ∨
        ∃ w₁ c result w₂ own, start o w = (.done (), w₁) ∧ w₁.session = ⟨some c, false⟩ ∧
          body w₁ = (.ofExcept result, w₂) ∧
          Concluded result w₂.standing own r v.standing) := by
  refine ⟨?_, ?_⟩
  · intro active
    simp [transaction, start_of_active o active]
  · intro r v inactive run
    rcases bind_eq_ofExcept run with ⟨e, failed, rfl⟩ | ⟨_, w₁, began, concluded⟩
    · rcases session_of_start (r := .error e) inactive failed with ⟨fine, -⟩ | ⟨-, free⟩
      · cases fine
      · exact ⟨congrArg Session.connection free, .inl ⟨e, failed, rfl⟩⟩
    · rcases session_of_start (r := .ok ()) inactive began with ⟨-, c, held⟩ | ⟨⟨e, failed⟩, -⟩
      · obtain ⟨result, w₂, own, ran, conclusion⟩ := concluded_of_conclude concluded
        exact ⟨conclusion.closed, .inr ⟨w₁, c, result, w₂, own, began, held, ran, conclusion⟩⟩
      · cases failed

/-- Work that ends its transaction, begins another one, and fails. -/
def replacing : Work Unit := do
  commit
  start {}
  fail (.other "nothing to do")

/-- Every rollback fails. -/
def refusingRollback : Workspace where
  database := { config := {}, server := {
    rules := [⟨rollbackText, .failure (.connection "connection reset"), none⟩] } }

/-- The failure of the work is told, not that of the rollback. -/
theorem transaction_concluded_replacing :
    let v := (transaction {} replacing refusingRollback).2
    refusingRollback.session.isActive = false ∧
      transaction {} replacing refusingRollback = (.failed (.other "nothing to do"), v) ∧
      v.session.connection = none ∧
      ∃ w₁ w₂ st, start {} refusingRollback = (.done (), w₁) ∧
        replacing w₁ = (.failed (.other "nothing to do"), w₂) ∧
        v.standing.ledger.sent = w₂.standing.ledger.sent ++ [st] ∧
        st.connection = 2 ∧ st.sql = rollbackText ∧ st.failed = true := by
  intro v
  have run : transaction {} replacing refusingRollback =
      (.ofExcept (.error (.other "nothing to do")), v) := rfl
  have inactive : refusingRollback.session.isActive = false := rfl
  obtain ⟨closed, cases⟩ :=
    (transaction_concluded {} replacing refusingRollback).2 _ v inactive run
  refine ⟨inactive, run, closed, ?_⟩
  rcases cases with ⟨e, failed, -⟩ | ⟨w₁, c, result, w₂, own, began, -, ran, conclusion⟩
  · have began : (start {} refusingRollback).1 = .done () := rfl
    rw [failed] at began
    cases began
  · obtain rfl : w₁ = (start {} refusingRollback).2 := by rw [began]
    obtain rfl : w₂ = (replacing (start {} refusingRollback).2).2 := by rw [ran]
    have failing : (replacing (start {} refusingRollback).2).1 =
        .ofExcept (.error (.other "nothing to do")) := rfl
    rw [ran] at failing
    obtain rfl := Ending.ofExcept_inj failing
    obtain ⟨st, rfl, on, text⟩ := conclusion.rolledBack _ 2 rfl rfl
    have replies : v.standing.ledger.sent.map SentStatement.failed =
        [false, false, false, true] := rfl
    rw [conclusion.sent] at replies
    have failed : [st.failed] = [true] :=
      @List.append_cancel_left _ [false, false, false] _ _ replies
    exact ⟨_, _, st, began, ran, conclusion.sent, on, text, List.head_eq_of_cons_eq failed⟩

end DataMapper.Session
