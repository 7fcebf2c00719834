import DataMapper.Proofs.Session.Outcomes
import DataMapper.Proofs.Session.Statements

/-!
# Operations on their connections

Before an operation is run, the session rolls back what was abandoned, and nothing but this rollback
is sent. The operation is then run on the connection of the open transaction or on the next one that
is acquired, or it is not run at all.

## Main definitions

* `Workspace.Asked` — statements were sent, and the records are as they were.
* `Session.Recovers` — what a session sends before anything else.
* `Standing.connection` — the connection that the next operation is run on.

## Main statements

* `Session.onConnection_cases` — how an operation is run.
-/

namespace DataMapper

open Work

variable {α β : Type}

/-! ## Records that are kept -/

/-- The records with their texts and the settings are the same. -/
structure Workspace.Kept (w v : Workspace) : Prop where
  records : v.records = w.records
  store : v.store = w.store
  config : v.database.config = w.database.config

theorem Workspace.Kept.refl (w : Workspace) : w.Kept w := ⟨rfl, rfl, rfl⟩

theorem Workspace.Kept.trans {w v u : Workspace} (h : w.Kept v) (g : v.Kept u) : w.Kept u where
  records := g.records.trans h.records
  store := g.store.trans h.store
  config := g.config.trans h.config

namespace Work

/-- The work has nothing to do with records. -/
def Keeps (x : Work α) : Prop := ∀ w : Workspace, w.Kept (x w).2

namespace Keeps

variable {x : Work α} {f : α → Work β}

theorem bind (hx : Keeps x) (hf : ∀ a, Keeps (f a)) : Keeps (x >>= f) := by
  intro w
  have first := hx w
  rw [bind_apply]
  generalize x w = run at first ⊢
  obtain ⟨a | e | l, u⟩ := run
  · exact first.trans (hf a u)
  · exact first
  · exact first

theorem attempt (hx : Keeps x) : Keeps (attempt x) := by
  intro w
  have first := hx w
  unfold Work.attempt
  generalize x w = run at first ⊢
  obtain ⟨a | e | l, u⟩ := run <;> exact first

theorem pure (a : α) : Keeps (Pure.pure a : Work α) := .refl

theorem read : Keeps Work.read := .refl

theorem modify {g : Workspace → Workspace} (h : ∀ w : Workspace, w.Kept (g w)) :
    Keeps (Work.modify g) :=
  h

theorem run {interpret : Option Reply → Except Error α} {summary : α → Outcome}
    (reading : IsReading interpret summary) (c : Nat) (sql : String) (parameters : List Value)
    (tag : Option String) : Keeps (run c sql parameters tag interpret summary) := by
  intro w
  obtain ⟨clock, ⟨l, run⟩ | ⟨rs, -, run⟩⟩ := run_cases w reading c sql parameters tag <;>
    rw [run] <;> exact ⟨rfl, rfl, rfl⟩

end Keeps

end Work

namespace Session

theorem keeps_recover : Keeps recover := by
  refine .bind .read fun w => ?_
  dsimp only
  split
  · exact .pure false
  · refine .bind (.modify fun _ => ⟨rfl, rfl, rfl⟩) fun _ => ?_
    refine .bind (.bind .read fun _ => .bind (.modify fun _ => ⟨rfl, rfl, rfl⟩) fun _ => .pure _)
      fun taken => ?_
    cases taken with
    | none => exact .pure false
    | some c =>
      refine .bind (.modify fun _ => ⟨rfl, rfl, rfl⟩) fun _ => ?_
      refine .bind (Keeps.run isReading_completion _ _ _ _).attempt fun result => ?_
      cases result with
      | ok => exact .bind (.modify fun _ => ⟨rfl, rfl, rfl⟩) fun _ => .pure true
      | error e =>
        refine .bind (.modify fun _ => ⟨rfl, rfl, rfl⟩) fun _ => ?_
        exact .bind (.modify fun _ => ⟨rfl, rfl, rfl⟩) fun _ => .pure true

end Session

/-! ## Statements that are sent -/

/-- These statements were sent, and nothing has become of the records. -/
structure Workspace.Asked (w : Workspace) (sts : List SentStatement) (v : Workspace) : Prop
    extends w.Kept v where
  sent : v.database.server.sent = w.database.server.sent ++ sts

theorem Workspace.Asked.refl (w : Workspace) : w.Asked [] w :=
  ⟨.refl w, (List.append_nil _).symm⟩

theorem Workspace.Asked.trans {w v u : Workspace} {sts more : List SentStatement}
    (h : w.Asked sts v) (g : v.Asked more u) : w.Asked (sts ++ more) u where
  toKept := h.toKept.trans g.toKept
  sent := by rw [g.sent, h.sent, List.append_assoc]

/-- A statement is sent once, and its reply is read unless the wait for it is cut short. -/
theorem Work.run_asked {interpret : Option Reply → Except Error α} {summary : α → Outcome}
    (reading : IsReading interpret summary) (c : Nat) (sql : String) (parameters : List Value)
    (tag : Option String) (w : Workspace) :
    ∃ reply v, w.Asked [⟨c, sql, parameters, reply⟩] v ∧
      ((∃ l, run c sql parameters tag interpret summary w = (.interrupted l, v)) ∨
        run c sql parameters tag interpret summary w = (.ofExcept (interpret reply), v)) := by
  obtain ⟨clock, ⟨l, run⟩ | ⟨rs, -, run⟩⟩ := run_cases w reading c sql parameters tag
  · exact ⟨_, w.sending c sql parameters clock, ⟨⟨rfl, rfl, rfl⟩, Server.sent_send _ _ _ _⟩,
      .inl ⟨l, run⟩⟩
  · exact ⟨_, (w.sending c sql parameters clock).told rs,
      ⟨⟨rfl, rfl, rfl⟩, Server.sent_send _ _ _ _⟩, .inr run⟩

/-! ## Sessions -/

/-- What the session sends before anything else: the rollback of its transaction, if that is
abandoned. -/
def Session.Recovers (s : Session) (sts : List SentStatement) : Prop :=
  match s with
  | ⟨some c, true⟩ => ∃ st, sts = [st] ∧ st.connection = c ∧ st.sql = rollbackText
  | _ => sts = []

/-- The connection that an operation is run on: that of the open transaction, else the next one. -/
def Standing.connection (s : Standing) : Nat :=
  match s.session with
  | ⟨some c, false⟩ => c
  | _ => s.ledger.acquired + 1

namespace Session

variable {s t : Standing}

theorem Recovered.exists_sent {b : Bool} (h : Recovered s b t) :
    ∃ sts, s.session.Recovers sts ∧ t.ledger.sent = s.ledger.sent ++ sts := by
  cases h with
  | @present k => exact ⟨[], by cases k <;> rfl, (List.append_nil _).symm⟩
  | forgotten => exact ⟨[], rfl, (List.append_nil _).symm⟩
  | @rolledBack c l st on text => exact ⟨[st], ⟨st, rfl, on, text⟩, l.sent_putAway st⟩

theorem Recovering.exists_sent (h : Recovering s t) :
    ∃ sts, s.session.Recovers sts ∧ t.ledger.sent = s.ledger.sent ++ sts := by
  cases h with
  | @rollingBack c l st on text => exact ⟨[st], ⟨st, rfl, on, text⟩, rfl⟩

theorem Recovered.connection_eq {b : Bool} (h : Recovered s b t) : t.connection = s.connection := by
  cases h with
  | present | forgotten => rfl
  | @rolledBack c l st => exact congrArg (· + 1) (l.acquired_putAway st)

theorem recover_cases (w : Workspace) :
    ∃ recovery u, w.session.Recovers recovery ∧ w.Asked recovery u ∧
      ((∃ l, recover w = (.interrupted l, u)) ∨
        ∃ b, recover w = (.done b, u) ∧ u.session.abandoned = false ∧
          u.standing.connection = w.standing.connection) := by
  have kept := keeps_recover w
  cases succeeds_recover (w := w) fun _ recovering => recovering with
  | @ended r u run _ holds =>
    rw [run] at kept
    cases r with
    | error e => exact holds.elim
    | ok b =>
      obtain ⟨recovery, recovers, sent⟩ := holds.exists_sent
      exact ⟨recovery, u, recovers, ⟨kept, sent⟩, .inr ⟨b, run, holds.not_abandoned,
        holds.connection_eq⟩⟩
  | @interrupted l u run _ holds =>
    rw [run] at kept
    obtain ⟨recovery, recovers, sent⟩ := holds.exists_sent
    exact ⟨recovery, u, recovers, ⟨kept, sent⟩, .inl ⟨l, run⟩⟩

theorem release_asked (c : Nat) (w : Workspace) :
    ∃ v, release c w = (.done (), v) ∧ w.Asked [] v :=
  ⟨_, rfl, ⟨rfl, rfl, rfl⟩, (List.append_nil _).symm⟩

theorem acquire_cases (w : Workspace) :
    (∃ e, acquire w = (.failed e, w)) ∨
      ∃ v, acquire w = (.done (w.standing.ledger.acquired + 1), v) ∧ w.Asked [] v := by
  unfold acquire
  simp only [bind_apply, Work.read, Server.acquire]
  cases w.database.server.refusal with
  | some message => exact .inl ⟨_, rfl⟩
  | none => exact .inr ⟨_, rfl, ⟨rfl, rfl, rfl⟩, (List.append_nil _).symm⟩

/-- An operation is run on its connection once what was abandoned has been rolled back, or it is not
run at all. -/
theorem onConnection_cases (operation : Nat → Work α) (w : Workspace) :
    ∃ recovery u, w.session.Recovers recovery ∧ w.Asked recovery u ∧
      ((∃ ending, onConnection operation w = (ending, u) ∧ ∀ a, ending ≠ .done a) ∨
        ∃ v, (operation w.standing.connection u).2.Asked [] v ∧
          onConnection operation w = ((operation w.standing.connection u).1, v)) := by
  obtain ⟨recovery, u, recovers, asked, ⟨l, cut⟩ | ⟨b, recovered, present, same⟩⟩ :=
    recover_cases w
  · refine ⟨recovery, u, recovers, asked, .inl ⟨.interrupted l, ?_, fun _ ended => by cases ended⟩⟩
    rw [onConnection, bind_apply, cut]
  · rw [← same, Standing.connection, standing_of_present present]
    unfold onConnection
    simp only [bind_apply, recovered, Work.read]
    cases held : u.session.connection with
    | some c => exact ⟨recovery, u, recovers, asked, .inr ⟨_, .refl _, rfl⟩⟩
    | none =>
      simp only [bind_apply, attempt]
      obtain ⟨e, refused⟩ | ⟨u', acquired, idle⟩ := acquire_cases u
      · exact ⟨recovery, u, recovers, asked,
          .inl ⟨.failed e, by simp only [refused], fun _ ended => by cases ended⟩⟩
      · have asked := asked.trans idle
        rw [List.append_nil] at asked
        refine ⟨recovery, u', recovers, asked, .inr ?_⟩
        simp only [acquired]
        -- the operation ends as it would without the connection being released
        generalize operation (u.standing.ledger.acquired + 1) u' = run
        obtain ⟨a | e | l, v⟩ := run
        · obtain ⟨v', released, asked⟩ := release_asked (u.standing.ledger.acquired + 1) v
          exact ⟨v', asked, by simp only [released]; rfl⟩
        · obtain ⟨v', released, asked⟩ := release_asked (u.standing.ledger.acquired + 1) v
          exact ⟨v', asked, by simp only [released]; rfl⟩
        · exact ⟨v, .refl v, rfl⟩

end Session

end DataMapper
