import DataMapper.Proofs.Session.Outcomes
import Mathlib.Logic.Relation

/-!
# What operations do to connections

An operation of a session does a few things to connections, one after another: it rolls back an
abandoned transaction, it sends statements inside the open transaction or on a connection that it
borrows, and it opens a transaction or ends it.

## Main definitions

* `Sends` — statements on one connection, and nothing else.
* `Effect`, `Effects` — one of these things, and a sequence of them.
-/

namespace DataMapper

open Work

/-- The text begins a transaction. -/
def IsBegin (sql : String) : Prop :=
  ∃ (o : Sql.TransactionOptions) (d : Sql.Dialect), sql = o.beginText d

/-- On the connection, statements are sent whose texts are as demanded; nothing else changes. -/
def Sends (c : Nat) (ok : String → Prop) (s t : Standing) : Prop :=
  ∃ sts : List SentStatement, (∀ st ∈ sts, st.connection = c ∧ ok st.sql) ∧
    t = ⟨s.session, s.ledger.send sts⟩

/-- One thing that an operation does to its session and to connections. Statements that have nothing
to do with transactions have texts as demanded. -/
inductive Effect (ok : String → Prop) : Standing → Standing → Prop where
  /-- Statements inside the open transaction. -/
  | use {c : Nat} {l : Ledger} {sts : List SentStatement}
      (on : ∀ st ∈ sts, st.connection = c ∧ ok st.sql) :
      Effect ok ⟨⟨some c, false⟩, l⟩ ⟨⟨some c, false⟩, l.send sts⟩
  /-- Statements on a connection that is acquired for them. -/
  | borrow {l : Ledger} {sts : List SentStatement}
      (on : ∀ st ∈ sts, st.connection = l.acquired + 1 ∧ ok st.sql) :
      Effect ok ⟨⟨none, false⟩, l⟩
        ⟨⟨none, false⟩, (l.acquire.send sts).release (l.acquired + 1)⟩
  | start {l : Ledger} {st : SentStatement} (on : st.connection = l.acquired + 1)
      (text : IsBegin st.sql) (fine : st.failed = false) :
      Effect ok ⟨⟨none, false⟩, l⟩ ⟨⟨some (l.acquired + 1), false⟩, l.acquire.send [st]⟩
  | startFailed {l : Ledger} {st : SentStatement} (on : st.connection = l.acquired + 1)
      (text : IsBegin st.sql) (failed : st.failed = true) :
      Effect ok ⟨⟨none, false⟩, l⟩
        ⟨⟨none, false⟩, (l.acquire.send [st]).release (l.acquired + 1)⟩
  | finish {c : Nat} {l : Ledger} {st : SentStatement} (on : st.connection = c)
      (text : st.sql = Session.commitText ∨ st.sql = Session.rollbackText) :
      Effect ok ⟨⟨some c, false⟩, l⟩ ⟨⟨none, false⟩, (l.send [st]).release c⟩
  /-- The transaction of interrupted work is rolled back, or that of a session that goes away. -/
  | recover {c : Nat} {b : Bool} {l : Ledger} {st : SentStatement} (on : st.connection = c)
      (text : st.sql = Session.rollbackText) :
      Effect ok ⟨⟨some c, b⟩, l⟩ ⟨⟨none, false⟩, l.putAway st⟩
  /-- The session goes away where nothing can be sent. -/
  | discard {c : Nat} {b : Bool} {l : Ledger} :
      Effect ok ⟨⟨some c, b⟩, l⟩ ⟨⟨none, false⟩, l.discard c⟩
  /-- The transaction has been ended before. -/
  | forget {b : Bool} {l : Ledger} : Effect ok ⟨⟨none, b⟩, l⟩ ⟨⟨none, false⟩, l⟩

def Effects (ok : String → Prop) : Standing → Standing → Prop :=
  Relation.ReflTransGen (Effect ok)

/-- What an operation is in the middle of when it is interrupted. The connection that it waits on is
lost, unless the transaction on it stays open. -/
inductive Cut (ok : String → Prop) : Standing → Standing → Prop where
  | rest {s : Standing} : Cut ok s s
  | borrow {l : Ledger} {sts : List SentStatement}
      (on : ∀ st ∈ sts, st.connection = l.acquired + 1 ∧ ok st.sql) :
      Cut ok ⟨⟨none, false⟩, l⟩ ⟨⟨none, false⟩, l.acquire.send sts⟩
  | start {l : Ledger} {st : SentStatement} (on : st.connection = l.acquired + 1)
      (text : IsBegin st.sql) :
      Cut ok ⟨⟨none, false⟩, l⟩ ⟨⟨none, false⟩, l.acquire.send [st]⟩
  | finish {c : Nat} {b : Bool} {l : Ledger} {st : SentStatement} (on : st.connection = c)
      (text : st.sql = Session.commitText ∨ st.sql = Session.rollbackText) :
      Cut ok ⟨⟨some c, b⟩, l⟩ ⟨⟨none, false⟩, l.send [st]⟩

/-- A sequence of effects in the middle of which an operation is interrupted. -/
def Broken (ok : String → Prop) (s t : Standing) : Prop := ∃ m, Effects ok s m ∧ Cut ok m t

theorem Effects.broken {ok : String → Prop} {s t : Standing} (h : Effects ok s t) : Broken ok s t :=
  ⟨t, h, .rest⟩

/-- Statements on one connection; an interruption leaves them as they are. -/
def sending (c : Nat) (ok : String → Prop) : Course :=
  have trans {s t u : Standing} (h : Sends c ok s t) (g : Sends c ok t u) : Sends c ok s u := by
    obtain ⟨as, ha, rfl⟩ := h
    obtain ⟨bs, hb, rfl⟩ := g
    refine ⟨as ++ bs, ?_, by simp⟩
    intro st hst
    rcases List.mem_append.1 hst with first | second
    · exact ha st first
    · exact hb st second
  { whole := Sends c ok
    part := Sends c ok
    refl s := ⟨[], by simp, by simp⟩
    trans
    part_of_whole := id
    whole_part := trans }

/-- Effects one after another, interrupted perhaps in the middle of one. -/
def operating (ok : String → Prop) : Course where
  whole := Effects ok
  part := Broken ok
  refl _ := .refl
  trans := .trans
  part_of_whole := Effects.broken
  whole_part := fun h ⟨m, effects, cut⟩ => ⟨m, h.trans effects, cut⟩

theorem Effect.mono {ok good : String → Prop} (le : ∀ sql, ok sql → good sql) {s t : Standing}
    (h : Effect ok s t) : Effect good s t := by
  cases h with
  | use on => exact .use fun st hst => ⟨(on st hst).1, le _ (on st hst).2⟩
  | borrow on => exact .borrow fun st hst => ⟨(on st hst).1, le _ (on st hst).2⟩
  | start on text fine => exact .start on text fine
  | startFailed on text failed => exact .startFailed on text failed
  | finish on text => exact .finish on text
  | recover on text => exact .recover on text
  | discard => exact .discard
  | forget => exact .forget

theorem Effects.mono {ok good : String → Prop} (le : ∀ sql, ok sql → good sql) {s t : Standing}
    (h : Effects ok s t) : Effects good s t := by
  induction h with
  | refl => exact .refl
  | tail _ effect ih => exact ih.tail (effect.mono le)

theorem does_run {c : Nat} {ok : String → Prop} {sql : String} (h : ok sql) {α : Type}
    (parameters : List Value) (tag : Option String) (interpret : Option Reply → Except Error α)
    (summary : α → Outcome) :
    Does (sending c ok) (run c sql parameters tag interpret summary) := by
  intro w
  have sends (reply : Option Reply) : Sends c ok w.standing
      ⟨w.session, w.standing.ledger.send [⟨c, sql, parameters, reply⟩]⟩ :=
    ⟨[⟨c, sql, parameters, reply⟩], by simpa using h, rfl⟩
  refine (ends_run c sql parameters tag interpret summary sends).mono ?_
  rintro _ w' ⟨reply, -, stands⟩
  rw [stands]
  exact sends reply

namespace Session

variable {α : Type} {w : Workspace} {I : Standing → Prop}

/-! ## Operations -/

variable {ok : String → Prop} {s t : Standing}

theorem broken_of_cut (h : Cut ok s t) : Broken ok s t := ⟨s, .refl, h⟩

theorem Recovered.effects {b : Bool} (h : Recovered s b t) : Effects ok s t := by
  cases h with
  | present => exact .refl
  | forgotten => exact .single .forget
  | rolledBack on text => exact .single (.recover on text)

theorem Recovering.broken (h : Recovering s t) : Broken ok s t := by
  cases h with
  | rollingBack on text => exact broken_of_cut (.finish on (.inr text))

theorem Opened.effects {o : Sql.TransactionOptions} {r : Except Error Unit} (h : Opened o s r t) :
    Effects ok s t := by
  cases h with
  | active | refused => exact .refl
  | begun on text answered => exact .single (.start on ⟨_, _, text⟩ (not_failed_of_ok answered))
  | rejected on text answered =>
    exact .single (.startFailed on ⟨_, _, text⟩ (failed_of_error answered))

theorem Opening.broken {o : Sql.TransactionOptions} (h : Opening o s t) : Broken ok s t := by
  cases h with
  | recovering h => exact h.broken
  | beginning recovered on text => exact ⟨_, recovered.effects, .start on ⟨_, _, text⟩⟩

theorem Finished.effects {sql : String} (text : sql = commitText ∨ sql = rollbackText)
    {r : Except Error Unit} (h : Finished sql s r t) : Effects ok s t := by
  cases h with
  | ended on same => exact .single (.finish on (same ▸ text))
  | recovered on text => exact .single (.recover on text)
  | inactive => exact .single .forget

theorem Finishing.broken {sql : String} (text : sql = commitText ∨ sql = rollbackText)
    (h : Finishing sql s t) : Broken ok s t := by
  cases h with
  | recovering h => exact h.broken
  | ending on same => exact broken_of_cut (.finish on (same ▸ text))

theorem Settled.effects {outcome r : Except Error α} (h : Settled outcome s r t) :
    Effects ok s t := by
  cases h with
  | closed => exact .refl
  | committed finished => exact finished.effects (.inl rfl)
  | rolledBack finished => exact finished.effects (.inr rfl)

/-- What an operation makes of a session in which nothing is abandoned: it runs inside the open
transaction, or on a connection that it borrows, or not at all. -/
inductive Used (ok : String → Prop) : Standing → Standing → Prop where
  | idle {s : Standing} : Used ok s s
  | inside {c : Nat} {l : Ledger} {sts : List SentStatement}
      (on : ∀ st ∈ sts, st.connection = c ∧ ok st.sql) :
      Used ok ⟨⟨some c, false⟩, l⟩ ⟨⟨some c, false⟩, l.send sts⟩
  | borrowed {l : Ledger} {sts : List SentStatement}
      (on : ∀ st ∈ sts, st.connection = l.acquired + 1 ∧ ok st.sql) :
      Used ok ⟨⟨none, false⟩, l⟩ ⟨⟨none, false⟩, (l.acquire.send sts).release (l.acquired + 1)⟩

theorem Used.effects (h : Used ok s t) : Effects ok s t := by
  cases h with
  | idle => exact .refl
  | inside on => exact .single (.use on)
  | borrowed on => exact .single (.borrow on)

theorem used_of_sends {c : Nat} (session : w.session = ⟨some c, false⟩)
    (h : Sends c ok w.standing s) : Used ok w.standing s := by
  obtain ⟨sts, on, rfl⟩ := h
  rw [Workspace.standing_of_session session]
  exact .inside on

/-- A session that is left has nothing in its hands. -/
theorem ends_leave (ok : String → Prop) (canSend : Bool) :
    Ends (leave canSend) w
      (fun _ w' => Effects ok w.standing w'.standing ∧ w'.standing.session = {})
      (fun s => Broken ok w.standing s ∧ s.session = {}) := by
  have standing := w.standing_of_session (k := w.session.connection) (b := w.session.abandoned) rfl
  refine (succeeds_leave canSend ?_).ends ?_
  · intro c st held on text
    refine ⟨broken_of_cut ?_, rfl⟩
    rw [standing, held]
    exact .finish on (.inr text)
  · intro _ w' after
    rw [standing]
    cases held : w.session.connection with
    | none =>
      simp only [held] at after
      rw [after]
      exact ⟨.single .forget, rfl⟩
    | some c =>
      cases canSend with
      | true =>
        simp only [held] at after
        obtain ⟨st, on, text, after⟩ := after
        rw [after]
        exact ⟨.single (.recover on text), rfl⟩
      | false =>
        simp only [held] at after
        rw [after]
        exact ⟨.single .discard, rfl⟩

theorem does_leave (canSend : Bool) : Does (operating ok) (leave canSend) :=
  fun _ => ((ends_leave ok canSend).mono fun _ _ holds => holds.1).interrupted_mono
    fun _ holds => holds.1

/-- An operation runs inside the open transaction, or on a connection that it borrows, once what was
abandoned has been rolled back. -/
theorem ends_onConnection {operation : Nat → Work α} (h : ∀ c, Does (sending c ok) (operation c)) :
    Ends (onConnection operation) w
      (fun _ w' => ∃ b s, Recovered w.standing b s ∧ Used ok s w'.standing)
      (Broken ok w.standing) := by
  unfold onConnection
  refine .after (succeeds_recover fun _ recovering => recovering.broken) ?_
  intro b w₁ recovered
  have present : w₁.session.abandoned = false := recovered.not_abandoned
  have effects : Effects ok w.standing w₁.standing := recovered.effects
  refine ends_read ?_
  cases held : w₁.session.connection with
  | some c =>
    have session₁ : w₁.session = ⟨some c, false⟩ := by rw [← held, ← present]
    have used {s : Standing} (sends : Sends c ok w₁.standing s) : Used ok w₁.standing s :=
      used_of_sends session₁ sends
    exact ((h c w₁).mono fun _ _ sends => ⟨b, _, recovered, used sends⟩).interrupted_mono
      fun _ sends => Effects.broken (effects.trans (used sends).effects)
  | none =>
    have session₁ : w₁.session = ⟨none, false⟩ := by rw [← held, ← present]
    have standing := Workspace.standing_of_session session₁
    refine .bind ends_acquire ?_ ?_
    · rintro c w₂ ⟨rfl, acquired⟩
      rw [session₁] at acquired
      have session₂ : w₂.session = ⟨none, false⟩ := congrArg Standing.session acquired
      have waiting (s : Standing)
          (sends : Sends (w₁.standing.ledger.acquired + 1) ok w₂.standing s) :
          Broken ok w.standing s := by
        obtain ⟨sts, on, rfl⟩ := sends
        refine ⟨_, effects, ?_⟩
        rw [acquired, standing]
        exact .borrow on
      refine .after ((h _ w₂).interrupted_mono waiting).attempt ?_
      rintro result w₃ ⟨sts, on, after⟩
      rw [acquired] at after
      refine .after (succeeds_release _) ?_
      intro _ w₄ released
      refine (ends_ofExcept _).mono ?_
      rintro _ _ ⟨-, rfl⟩
      have session₃ : w₃.session = ⟨none, false⟩ := congrArg Standing.session after
      refine ⟨b, _, recovered, ?_⟩
      rw [released, session₃, after, standing]
      exact .borrowed on
    · intro e w₂ same
      rw [same]
      exact ⟨b, _, recovered, .idle⟩

theorem does_onConnection {operation : Nat → Work α} (h : ∀ c, Does (sending c ok) (operation c)) :
    Does (operating ok) (onConnection operation) := by
  intro w
  refine (ends_onConnection h).mono ?_
  rintro _ w' ⟨b, s, recovered, used⟩
  exact recovered.effects.trans used.effects

/-- A transaction is opened on a connection of its own, which is released if that fails. -/
theorem does_start (o : Sql.TransactionOptions) : Does (operating ok) (start o) := by
  intro w
  refine (ends_start o fun _ opening => opening.broken).mono ?_
  rintro _ w' ⟨_, _, recovered, opened⟩
  exact recovered.effects.trans opened.effects

/-- The open transaction is ended by the statement, and its connection is released in any case,
unless the reply is not waited for. -/
theorem does_finish {sql : String} (text : sql = commitText ∨ sql = rollbackText) :
    Does (operating ok) (finish sql) :=
  fun _ => (ends_finish fun _ finishing => finishing.broken text).mono
    fun _ _ finished => finished.effects text

/-- Nothing is recovered for a savepoint that cannot be named. -/
theorem ends_savepointCommand {command name : String} (text : ok (command ++ " " ++ name)) :
    Ends (savepointCommand command name) w
      (fun _ w' => w'.standing = w.standing ∨
        ∃ b s, Recovered w.standing b s ∧ Used ok s w'.standing)
      (Broken ok w.standing) := by
  unfold savepointCommand
  split
  · exact .ended (r := .error (.validation (.savepointName name))) (v := w) rfl rfl (.inl rfl)
  · refine .after (succeeds_recover fun _ recovering => recovering.broken) ?_
    intro b w₁ recovered
    have present : w₁.session.abandoned = false := recovered.not_abandoned
    have effects : Effects ok w.standing w₁.standing := recovered.effects
    refine ends_read ?_
    cases held : w₁.session.connection with
    | none =>
      refine (ends_fail _).mono ?_
      rintro _ _ ⟨-, rfl⟩
      exact .inr ⟨b, _, recovered, .idle⟩
    | some c =>
      have session₁ : w₁.session = ⟨some c, false⟩ := by rw [← held, ← present]
      have used {s : Standing} (sends : Sends c ok w₁.standing s) : Used ok w₁.standing s :=
        used_of_sends session₁ sends
      exact ((does_run text [] none _ _ w₁).mono fun _ _ sends =>
        .inr ⟨b, _, recovered, used sends⟩).interrupted_mono
          fun _ sends => Effects.broken (effects.trans (used sends).effects)

theorem does_savepointCommand {command name : String} (text : ok (command ++ " " ++ name)) :
    Does (operating ok) (savepointCommand command name) := by
  intro w
  refine (ends_savepointCommand text).mono ?_
  rintro _ w' (same | ⟨b, s, recovered, used⟩)
  · rw [same]
    exact .refl
  · exact recovered.effects.trans used.effects

/-- The transaction is ended as the work inside it has ended, if it is still open. -/
theorem does_settle (outcome : Except Error α) : Does (operating ok) (settle outcome) :=
  fun _ => (ends_settle outcome fun _ _ text finishing => finishing.broken text).mono
    fun _ _ settled => settled.effects

end Session

end DataMapper
