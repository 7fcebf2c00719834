import DataMapper.Proofs.Session.Ends

/-!
# What becomes of transactions

What the primitive operations of a session make of its transaction, exactly: the recovery of an
abandoned one, how one is opened and ended by hand, and how it ends around work. The statements
that were sent decide on the results.

## Main definitions

* `Recovered`, `Opened`, `Finished`, `Settled` — how a standing may change, and with what result.
* `Recovering`, `Opening`, `Finishing` — where that may be interrupted.
-/

namespace DataMapper

open Work

/-- The ledger after a rollback whose failure costs the connection. -/
def Ledger.putAway (l : Ledger) (st : SentStatement) : Ledger :=
  if st.failed then (l.send [st]).discard st.connection
  else (l.send [st]).release st.connection

@[simp] theorem Ledger.sent_putAway (l : Ledger) (st : SentStatement) :
    (l.putAway st).sent = l.sent ++ [st] := by
  unfold putAway
  split <;> rfl

@[simp] theorem Ledger.acquired_putAway (l : Ledger) (st : SentStatement) :
    (l.putAway st).acquired = l.acquired := by
  unfold putAway
  split <;> rfl

namespace Session

variable {α : Type} {w : Workspace} {I : Standing → Prop}

/-! ## Connections -/

theorem succeeds_release (c : Nat) :
    Succeeds (release c) w
      (fun _ w' => w'.standing = ⟨w.session, w.standing.ledger.release c⟩) I := by
  refine (succeeds_modify (by rfl)).mono ?_
  rintro _ _ rfl
  rfl

theorem succeeds_discard (c : Nat) :
    Succeeds (discard c) w
      (fun _ w' => w'.standing = ⟨w.session, w.standing.ledger.discard c⟩) I := by
  refine (succeeds_modify (by rfl)).mono ?_
  rintro _ _ rfl
  rfl

theorem succeeds_takeConnection :
    Succeeds takeConnection w (fun k w' => k = w.session.connection ∧
      w'.standing = ⟨⟨none, w.session.abandoned⟩, w.standing.ledger⟩) I := by
  unfold takeConnection
  refine succeeds_read ?_
  refine .seq (succeeds_setSession _) ?_
  intro _ w' stands
  refine (succeeds_pure _).mono ?_
  rintro _ _ ⟨rfl, rfl⟩
  exact ⟨rfl, stands⟩

/-- The next number is acquired, or there is no connection and nothing has changed. -/
theorem ends_acquire :
    Ends acquire w (fun r w' => match r with
      | .ok c => c = w.standing.ledger.acquired + 1 ∧
        w'.standing = ⟨w.session, w.standing.ledger.acquire⟩
      | .error _ => w'.standing = w.standing) I := by
  unfold acquire
  refine ends_read ?_
  refine .bind (ends_ofExcept _) ?_ ?_
  · rintro ⟨c, server⟩ w₁ ⟨given, same⟩
    rw [same]
    unfold Server.acquire at given
    split at given
    · cases given
    · cases given
      refine .after (succeeds_modify (by rfl)) ?_
      intro _ w₂ counted
      refine (succeeds_pure _).ends ?_
      rintro _ _ ⟨rfl, rfl⟩
      rw [counted]
      exact ⟨rfl, rfl⟩
  · rintro e w₁ ⟨-, rfl⟩
    rfl

theorem succeeds_release_putAway {s : Session} {l : Ledger} {st : SentStatement}
    (stands : w.standing = ⟨s, l.send [st]⟩) (fine : st.failed = false) :
    Succeeds (release st.connection) w (fun _ w' => w'.standing = ⟨s, l.putAway st⟩) I := by
  refine (succeeds_release _).mono ?_
  intro _ w' after
  have session : w.session = s := congrArg Standing.session stands
  rw [after, session, stands, Ledger.putAway, fine]
  rfl

theorem succeeds_discard_putAway {s : Session} {l : Ledger} {st : SentStatement}
    (stands : w.standing = ⟨s, l.send [st]⟩) (failed : st.failed = true) :
    Succeeds (discard st.connection) w (fun _ w' => w'.standing = ⟨s, l.putAway st⟩) I := by
  refine (succeeds_discard _).mono ?_
  intro _ w' after
  have session : w.session = s := congrArg Standing.session stands
  rw [after, session, stands, Ledger.putAway, failed]
  rfl

/-! ## The rollback of abandoned transactions -/

theorem succeeds_rollBackAbandoned (c : Nat)
    (cut : ∀ st : SentStatement, st.connection = c → st.sql = rollbackText →
      I ⟨w.session, w.standing.ledger.send [st]⟩) :
    Succeeds (rollBackAbandoned c) w (fun _ w' =>
      ∃ st : SentStatement, st.connection = c ∧ st.sql = rollbackText ∧
        w'.standing = ⟨w.session, w.standing.ledger.putAway st⟩) I := by
  unfold rollBackAbandoned
  refine .seq (succeeds_send c rollbackText [] fun reply => cut _ rfl rfl) ?_
  intro reply w₁ stands
  cases answer : Reply.completion reply with
  | ok =>
    refine (succeeds_release_putAway stands (not_failed_of_ok answer.symm)).mono ?_
    intro _ w' after
    exact ⟨_, rfl, rfl, after⟩
  | error e =>
    refine .seq (succeeds_warn _ _) ?_
    intro _ w₂ same
    refine (succeeds_discard_putAway (same.trans stands) (failed_of_error answer.symm)).mono ?_
    intro _ w' after
    exact ⟨_, rfl, rfl, after⟩

/-! ## The end of a session -/

/-- A session that is left has no transaction any more. Its connection is put away behind a
rollback, or discarded where nothing can be sent. -/
theorem succeeds_leave (canSend : Bool)
    (cut : ∀ (c : Nat) (st : SentStatement), w.session.connection = some c → st.connection = c →
      st.sql = rollbackText → I ⟨{}, w.standing.ledger.send [st]⟩) :
    Succeeds (leave canSend) w (fun _ w' => match w.session.connection, canSend with
      | none, _ => w'.standing = ⟨{}, w.standing.ledger⟩
      | some c, true => ∃ st : SentStatement, st.connection = c ∧ st.sql = rollbackText ∧
        w'.standing = ⟨{}, w.standing.ledger.putAway st⟩
      | some c, false => w'.standing = ⟨{}, w.standing.ledger.discard c⟩) I := by
  unfold leave
  refine .seq succeeds_takeConnection ?_
  rintro k w₁ ⟨rfl, taken⟩
  refine .seq (succeeds_setSession _) ?_
  intro _ w₂ stands
  rw [taken] at stands
  cases held : w.session.connection with
  | none =>
    refine (succeeds_pure _).mono ?_
    rintro _ _ ⟨-, rfl⟩
    exact stands
  | some c =>
    have warned {w₃ : Workspace} (same : w₃.standing = w₂.standing) :
        w₃.session = {} ∧ w₃.standing.ledger = w.standing.ledger := by
      have stands₃ : w₃.standing = ⟨{}, w.standing.ledger⟩ := same.trans stands
      refine ⟨congrArg Standing.session stands₃, ?_⟩
      rw [stands₃]
    cases canSend with
    | true =>
      refine .seq (succeeds_warn _ _) ?_
      intro _ w₃ same
      obtain ⟨session₃, ledger₃⟩ := warned same
      refine (succeeds_rollBackAbandoned c ?_).mono ?_
      · intro st on text
        rw [session₃, ledger₃]
        exact cut c st held on text
      · rintro _ w' ⟨st, on, text, after⟩
        refine ⟨st, on, text, ?_⟩
        rw [after, session₃, ledger₃]
    | false =>
      refine .seq (succeeds_warn _ _) ?_
      intro _ w₃ same
      obtain ⟨session₃, ledger₃⟩ := warned same
      refine (succeeds_discard c).mono ?_
      intro _ w' after
      dsimp only
      rw [after, session₃, ledger₃]

/-! ## The recovery of abandoned transactions -/

/-- What recovery makes of a session, and whether there was a transaction to roll back. -/
inductive Recovered : Standing → Bool → Standing → Prop where
  | present {k : Option Nat} {l : Ledger} : Recovered ⟨⟨k, false⟩, l⟩ false ⟨⟨k, false⟩, l⟩
  /-- The transaction had been ended before the work was interrupted. -/
  | forgotten {l : Ledger} : Recovered ⟨⟨none, true⟩, l⟩ false ⟨{}, l⟩
  | rolledBack {c : Nat} {l : Ledger} {st : SentStatement} (on : st.connection = c)
      (text : st.sql = rollbackText) : Recovered ⟨⟨some c, true⟩, l⟩ true ⟨{}, l.putAway st⟩

inductive Recovering : Standing → Standing → Prop where
  | rollingBack {c : Nat} {l : Ledger} {st : SentStatement} (on : st.connection = c)
      (text : st.sql = rollbackText) : Recovering ⟨⟨some c, true⟩, l⟩ ⟨{}, l.send [st]⟩

theorem Recovered.not_abandoned {s t : Standing} {b : Bool} (h : Recovered s b t) :
    t.session.abandoned = false := by
  cases h <;> rfl

theorem Recovered.exists_rollback {c : Nat} {l : Ledger} {t : Standing} {b : Bool}
    (h : Recovered ⟨⟨some c, true⟩, l⟩ b t) :
    ∃ st, st.connection = c ∧ st.sql = rollbackText ∧ t = ⟨{}, l.putAway st⟩ := by
  cases h with
  | @rolledBack _ _ st on text => exact ⟨st, on, text, rfl⟩

theorem Recovered.session_eq {s t : Standing} {b : Bool} (h : Recovered s b t)
    (inactive : s.session.isActive = false) : t.session = {} := by
  cases h with
  | @present k =>
    cases k with
    | none => rfl
    | some c => cases inactive
  | forgotten | rolledBack => rfl

theorem Recovered.acquired_eq {s t : Standing} {b : Bool} (h : Recovered s b t) :
    t.ledger.acquired = s.ledger.acquired := by
  cases h with
  | present | forgotten => rfl
  | rolledBack => exact Ledger.acquired_putAway _ _

/-- Where nothing is abandoned, there is nothing to recover. -/
theorem recover_of_present (h : w.session.abandoned = false) : recover w = (.done false, w) := by
  simp [recover, Work.read, h]

theorem standing_of_present (h : w.session.abandoned = false) :
    w.standing = ⟨⟨w.session.connection, false⟩, w.standing.ledger⟩ :=
  Workspace.standing_of_session (by rw [← h])

/-- The rollback of a session that is cleared already puts the connection away. -/
theorem succeeds_recover_rollBack {c : Nat} {l : Ledger} (clear : w.standing = ⟨{}, l⟩)
    (cut : ∀ st : SentStatement, st.connection = c → st.sql = rollbackText →
      I ⟨{}, l.send [st]⟩) :
    Succeeds (do
      match ← attempt (runBatch c rollbackText none) with
      | .ok () => release c
      | .error e =>
        warn "rollback of cancelled transaction failed; discarding the connection" [errorField e]
        discard c
      return true) w (fun b w' => b = true ∧ ∃ st : SentStatement, st.connection = c ∧
        st.sql = rollbackText ∧ w'.standing = ⟨{}, l.putAway st⟩) I := by
  have session : w.session = {} := congrArg Standing.session clear
  have waiting (st : SentStatement) (on : st.connection = c) (text : st.sql = rollbackText) :
      I ⟨w.session, w.standing.ledger.send [st]⟩ := by
    rw [session, clear]
    exact cut st on text
  refine .seq (ends_runBatch c rollbackText none waiting).attempt ?_
  rintro result w₁ ⟨st, on, text, answered, stands⟩
  rw [session, clear] at stands
  have finished {w₂ : Workspace} (after : w₂.standing = ⟨{}, l.putAway st⟩) :
      Succeeds (pure true) w₂ (fun b w' => b = true ∧ ∃ st : SentStatement, st.connection = c ∧
        st.sql = rollbackText ∧ w'.standing = ⟨{}, l.putAway st⟩) I := by
    refine (succeeds_pure _).mono ?_
    rintro _ _ ⟨rfl, rfl⟩
    exact ⟨rfl, st, on, text, after⟩
  cases result with
  | ok =>
    refine .seq (on ▸ succeeds_release_putAway stands (not_failed_of_ok answered)) ?_
    intro _ w₂ after
    exact finished after
  | error e =>
    refine .seq (succeeds_warn _ _) ?_
    intro _ w₂ same
    refine .seq (on ▸ succeeds_discard_putAway (same.trans stands) (failed_of_error answered)) ?_
    intro _ w₃ after
    exact finished after

theorem succeeds_recover (cut : ∀ s, Recovering w.standing s → I s) :
    Succeeds recover w (fun b w' => Recovered w.standing b w'.standing) I := by
  have standing := w.standing_of_session (k := w.session.connection) (b := w.session.abandoned) rfl
  unfold recover
  refine succeeds_read ?_
  dsimp only
  cases abandoned : w.session.abandoned with
  | false =>
    refine (succeeds_pure _).mono ?_
    rintro _ _ ⟨rfl, rfl⟩
    rw [standing, abandoned]
    exact .present
  | true =>
    rw [abandoned] at standing
    refine .seq (succeeds_setSession _) ?_
    intro _ w₁ cleared
    have session₁ : w₁.session = ⟨w.session.connection, false⟩ := congrArg Standing.session cleared
    refine .seq succeeds_takeConnection ?_
    rintro k w₂ ⟨taken, emptied⟩
    rw [session₁, cleared] at emptied
    rw [session₁] at taken
    subst taken
    cases held : w.session.connection with
    | none =>
      refine (succeeds_pure _).mono ?_
      rintro _ _ ⟨rfl, rfl⟩
      rw [emptied, standing, held]
      exact .forgotten
    | some c =>
      rw [held] at standing
      refine .seq (succeeds_warn _ _) ?_
      intro _ w₃ same
      refine (succeeds_recover_rollBack (same.trans emptied) fun st on text => cut _ ?_).mono ?_
      · rw [standing]
        exact .rollingBack on text
      · rintro _ w' ⟨rfl, st, on, text, after⟩
        rw [after, standing]
        exact .rolledBack on text

/-! ## The beginning of transactions -/

/-- What an attempt to open a transaction makes of a session in which nothing is abandoned. -/
inductive Opened (o : Sql.TransactionOptions) : Standing → Except Error Unit → Standing → Prop where
  | active {c : Nat} {l : Ledger} :
      Opened o ⟨⟨some c, false⟩, l⟩ (.error (.transaction .alreadyActive)) ⟨⟨some c, false⟩, l⟩
  /-- No connection is to be had. -/
  | refused {l : Ledger} {e : Error} : Opened o ⟨{}, l⟩ (.error e) ⟨{}, l⟩
  | begun {l : Ledger} {st : SentStatement} {d : Sql.Dialect}
      (on : st.connection = l.acquired + 1) (text : st.sql = o.beginText d)
      (answered : .ok () = Reply.completion st.reply) :
      Opened o ⟨{}, l⟩ (.ok ()) ⟨⟨some (l.acquired + 1), false⟩, l.acquire.send [st]⟩
  | rejected {l : Ledger} {st : SentStatement} {d : Sql.Dialect} {e : Error}
      (on : st.connection = l.acquired + 1) (text : st.sql = o.beginText d)
      (answered : .error e = Reply.completion st.reply) :
      Opened o ⟨{}, l⟩ (.error e) ⟨{}, (l.acquire.send [st]).release (l.acquired + 1)⟩

/-- A session without a transaction has one exactly when the attempt has succeeded. -/
theorem Opened.session_eq {o : Sql.TransactionOptions} {s t : Standing} {r : Except Error Unit}
    (h : Opened o s r t) (free : s.session = {}) :
    (r = .ok () ∧ ∃ c, t.session = ⟨some c, false⟩) ∨ (∃ e, r = .error e) ∧ t.session = {} := by
  cases h with
  | active => cases free
  | @refused l e => exact .inr ⟨⟨e, rfl⟩, rfl⟩
  | begun => exact .inl ⟨rfl, _, rfl⟩
  | @rejected l st d e => exact .inr ⟨⟨e, rfl⟩, rfl⟩

/-- The statement that begins a transaction is the first on its connection. -/
theorem Opened.begin {o : Sql.TransactionOptions} {s t : Standing} {r : Except Error Unit}
    (h : Opened o s r t) (free : s.session = {}) :
    (t.ledger.acquired = s.ledger.acquired ∧ ∃ e, r = .error e) ∨
      t.ledger.acquired = s.ledger.acquired + 1 ∧
      (r = .ok () → t.session = ⟨some t.ledger.acquired, false⟩) ∧
      ∃ st d, t.ledger.sent = s.ledger.sent ++ [st] ∧ st.connection = t.ledger.acquired ∧
        st.sql = o.beginText d ∧ r = Reply.completion st.reply := by
  cases h with
  | active => cases free
  | @refused l e => exact .inl ⟨rfl, e, rfl⟩
  | @begun l st d on text answered =>
    exact .inr ⟨rfl, fun _ => rfl, st, d, rfl, on, text, answered⟩
  | @rejected l st d e on text answered =>
    exact .inr ⟨rfl, nofun, st, d, rfl, on, text, answered⟩

inductive Opening (o : Sql.TransactionOptions) : Standing → Standing → Prop where
  | recovering {s t : Standing} (h : Recovering s t) : Opening o s t
  | beginning {s : Standing} {b : Bool} {l : Ledger} {st : SentStatement} {d : Sql.Dialect}
      (recovered : Recovered s b ⟨{}, l⟩) (on : st.connection = l.acquired + 1)
      (text : st.sql = o.beginText d) : Opening o s ⟨{}, l.acquire.send [st]⟩

theorem ends_start_of_free {o : Sql.TransactionOptions} {l : Ledger} (free : w.standing = ⟨{}, l⟩)
    (cut : ∀ (st : SentStatement) (d : Sql.Dialect), st.connection = l.acquired + 1 →
      st.sql = o.beginText d → I ⟨{}, l.acquire.send [st]⟩) :
    Ends (do
      let connection ← acquire
      match ← attempt (runBatch connection (o.beginText (← config).dialect) none) with
      | .ok () => setSession { (← read).session with connection := some connection }
      | .error e =>
        release connection
        fail e) w (fun r w' => Opened o ⟨{}, l⟩ r w'.standing) I := by
  have session : w.session = {} := congrArg Standing.session free
  refine .bind ends_acquire ?_ ?_
  · rintro c w₁ ⟨rfl, acquired⟩
    rw [session, free] at acquired
    rw [free]
    have session₁ : w₁.session = {} := congrArg Standing.session acquired
    refine ends_config ?_
    have waiting (st : SentStatement) (on : st.connection = l.acquired + 1)
        (text : st.sql = o.beginText w₁.database.config.dialect) :
        I ⟨w₁.session, w₁.standing.ledger.send [st]⟩ := by
      rw [session₁, acquired]
      exact cut st _ on text
    refine .after (ends_runBatch _ _ none waiting).attempt ?_
    rintro result w₂ ⟨st, on, text, answered, after⟩
    rw [session₁, acquired] at after
    have session₂ : w₂.session = {} := congrArg Standing.session after
    cases result with
    | ok =>
      refine ends_read ?_
      refine (succeeds_setSession _).ends ?_
      intro _ w₃ opened
      rw [opened, session₂, after]
      exact .begun on text answered
    | error e =>
      refine .after (succeeds_release _) ?_
      intro _ w₃ released
      refine (ends_fail _).mono ?_
      rintro _ _ ⟨rfl, rfl⟩
      rw [released, session₂, after]
      exact .rejected on text answered
  · intro e w₁ same
    rw [same, free]
    exact .refused

theorem ends_start (o : Sql.TransactionOptions) (cut : ∀ s, Opening o w.standing s → I s) :
    Ends (start o) w (fun r w' =>
      ∃ b s, Recovered w.standing b s ∧ Opened o s r w'.standing) I := by
  unfold start
  refine .after (succeeds_recover fun s recovering => cut s (.recovering recovering)) ?_
  intro b w₁ recovered
  have standing := standing_of_present recovered.not_abandoned
  refine ends_read ?_
  cases held : w₁.session.connection with
  | some c =>
    rw [held] at standing
    refine .ended (r := .error (.transaction .alreadyActive)) (v := w₁) rfl rfl ?_
    refine ⟨b, _, recovered, ?_⟩
    rw [standing]
    exact .active
  | none =>
    rw [held] at standing
    rw [standing] at recovered
    have rest := ends_start_of_free standing fun st d on text =>
      cut _ (.beginning recovered on text)
    exact rest.mono fun _ _ opened => ⟨b, _, recovered, opened⟩

/-! ## The end of transactions -/

/-- What a statement that ends the transaction makes of a session. -/
inductive Finished (sql : String) : Standing → Except Error Unit → Standing → Prop where
  /-- The reply is the result, and the connection is released in any case. -/
  | ended {c : Nat} {l : Ledger} {st : SentStatement} (on : st.connection = c)
      (text : st.sql = sql) :
      Finished sql ⟨⟨some c, false⟩, l⟩ (Reply.completion st.reply) ⟨{}, (l.send [st]).release c⟩
  /-- The transaction was abandoned, and has been rolled back instead. -/
  | recovered {c : Nat} {l : Ledger} {st : SentStatement} (on : st.connection = c)
      (text : st.sql = rollbackText) :
      Finished sql ⟨⟨some c, true⟩, l⟩
        (if sql = rollbackText then .ok () else .error (.transaction (.inactive sql)))
        ⟨{}, l.putAway st⟩
  | inactive {b : Bool} {l : Ledger} :
      Finished sql ⟨⟨none, b⟩, l⟩ (.error (.transaction (.inactive sql))) ⟨{}, l⟩

inductive Finishing (sql : String) : Standing → Standing → Prop where
  | recovering {s t : Standing} (h : Recovering s t) : Finishing sql s t
  | ending {c : Nat} {l : Ledger} {st : SentStatement} (on : st.connection = c)
      (text : st.sql = sql) : Finishing sql ⟨⟨some c, false⟩, l⟩ ⟨{}, l.send [st]⟩

theorem ends_finish_of_present {sql : String} (present : w.session.abandoned = false)
    (cut : ∀ s, Finishing sql w.standing s → I s) :
    Ends (do
      match ← takeConnection with
      | none => fail (.transaction (.inactive sql))
      | some c =>
        let result ← attempt (runBatch c sql none)
        release c
        ofExcept result) w (fun r w' => Finished sql w.standing r w'.standing) I := by
  have standing := standing_of_present present
  refine .after succeeds_takeConnection ?_
  rintro _ w₁ ⟨rfl, taken⟩
  rw [present] at taken
  cases held : w.session.connection with
  | none =>
    refine (ends_fail _).mono ?_
    rintro _ _ ⟨rfl, rfl⟩
    rw [taken, standing, held]
    exact .inactive
  | some c =>
    rw [held] at standing
    have session₁ : w₁.session = {} := congrArg Standing.session taken
    have waiting (st : SentStatement) (on : st.connection = c) (text : st.sql = sql) :
        I ⟨w₁.session, w₁.standing.ledger.send [st]⟩ := by
      refine cut _ ?_
      rw [session₁, taken, standing]
      exact .ending on text
    refine .after (ends_runBatch c sql none waiting).attempt ?_
    rintro result w₂ ⟨st, on, text, answered, after⟩
    rw [session₁, taken] at after
    have session₂ : w₂.session = {} := congrArg Standing.session after
    refine .after (succeeds_release c) ?_
    intro _ w₃ released
    refine (ends_ofExcept _).mono ?_
    rintro _ _ ⟨rfl, rfl⟩
    rw [released, session₂, after, standing, answered]
    exact .ended on text

/-- Behind a recovery there is a transaction to be ended only where there was nothing to recover. -/
theorem Finished.of_recovered {sql : String} {s t u : Standing} {b : Bool} {r : Except Error Unit}
    (h : Finished sql t r u) (recovered : Recovered s b t)
    (other : (b && sql == rollbackText) = false) : Finished sql s r u := by
  cases recovered with
  | present => exact h
  | forgotten =>
    cases h
    exact .inactive
  | @rolledBack c l st on text =>
    cases h
    have ended : Finished sql ⟨⟨some c, true⟩, l⟩ _ _ := .recovered on text
    rwa [if_neg (by simpa using other)] at ended

theorem Finishing.of_recovered {sql : String} {s t u : Standing} {b : Bool}
    (h : Finishing sql t u) (recovered : Recovered s b t) : Finishing sql s u := by
  cases recovered with
  | present => exact h
  | forgotten | rolledBack =>
    cases h with
    | recovering h => cases h

theorem ends_finish {sql : String} (cut : ∀ s, Finishing sql w.standing s → I s) :
    Ends (finish sql) w (fun r w' => Finished sql w.standing r w'.standing) I := by
  unfold finish
  refine .after (succeeds_recover fun s recovering => cut s (.recovering recovering)) ?_
  intro b w₁ recovered
  split
  · next both =>
    refine (succeeds_pure _).ends ?_
    rintro _ w' ⟨-, same⟩
    obtain ⟨rfl, rfl⟩ : b = true ∧ sql = rollbackText := by simpa using both
    rw [same]
    generalize w.standing = s, w₁.standing = t at recovered ⊢
    cases recovered with
    | rolledBack on text => exact .recovered on text
  · next other =>
    have rest : Ends _ w₁ (fun r w' => Finished sql w₁.standing r w'.standing) I :=
      ends_finish_of_present recovered.not_abandoned
        fun s finishing => cut s (finishing.of_recovered recovered)
    exact rest.mono fun _ _ finished => finished.of_recovered recovered (by simpa using other)

/-! ## Transactions around work -/

/-- What becomes of a session whose work inside a transaction has ended. -/
inductive Settled : Except Error α → Standing → Except Error α → Standing → Prop where
  /-- The work has ended the transaction itself. -/
  | closed {b : Bool} {l : Ledger} {outcome : Except Error α} :
      Settled outcome ⟨⟨none, b⟩, l⟩ outcome ⟨⟨none, b⟩, l⟩
  /-- The commit may fail in place of the work. -/
  | committed {a : α} {s t : Standing} {r : Except Error Unit}
      (finished : Finished commitText s r t) (isOpen : s.session.connection.isSome = true) :
      Settled (.ok a) s (r.map fun _ => a) t
  /-- The failure of the work outweighs that of the rollback. -/
  | rolledBack {e : Error} {s t : Standing} {r : Except Error Unit}
      (finished : Finished rollbackText s r t) (isOpen : s.session.connection.isSome = true) :
      Settled (.error e) s (.error e) t

theorem ends_settle (outcome : Except Error α)
    (cut : ∀ s sql, sql = commitText ∨ sql = rollbackText → Finishing sql w.standing s → I s) :
    Ends (settle outcome) w (fun r w' => Settled outcome w.standing r w'.standing) I := by
  have closed (shut : ¬ w.session.connection.isSome = true) :
      Settled outcome w.standing outcome w.standing := by
    have empty : w.session.connection = none := by simpa using shut
    have session : w.session = ⟨none, w.session.abandoned⟩ := by rw [← empty]
    rw [Workspace.standing_of_session session]
    exact .closed
  unfold settle
  refine ends_read ?_
  dsimp only
  cases outcome with
  | ok a =>
    dsimp only
    split
    · next isOpen =>
      refine .bind (ends_finish fun s => cut s _ (.inl rfl)) ?_ ?_
      · intro _ w₁ finished
        refine (succeeds_pure a).ends ?_
        rintro _ w' ⟨rfl, rfl⟩
        exact .committed finished isOpen
      · intro e w₁ finished
        exact .committed finished isOpen
    · next shut =>
      refine (succeeds_pure a).ends ?_
      rintro _ w' ⟨rfl, rfl⟩
      exact closed shut
  | error e =>
    dsimp only
    split
    · next isOpen =>
      refine .after (ends_finish fun s => cut s _ (.inr rfl)).attempt ?_
      intro result w₁ finished
      have failing {w₂ : Workspace} (same : w₂.standing = w₁.standing) :
          Ends (fail e : Work α) w₂
            (fun r w' => Settled (.error e) w.standing r w'.standing) I := by
        refine (ends_fail e).mono ?_
        rintro _ _ ⟨rfl, rfl⟩
        rw [same]
        exact .rolledBack finished isOpen
      cases result with
      | ok => exact failing rfl
      | error e' =>
        refine .after (succeeds_warn _ _) ?_
        intro _ w₂ same
        exact failing same
    · next shut =>
      refine (ends_fail e).mono ?_
      rintro _ _ ⟨rfl, rfl⟩
      exact closed shut

end Session

end DataMapper
