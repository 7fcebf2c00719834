import DataMapper.Proofs.Session.Actions
import DataMapper.Proofs.Session.Leases
import DataMapper.Proofs.Session.Refusals

/-!
# Operations that write records

An operation that writes a record first sends the statement that does it. Where this fails or does
not change one row, the operation is over, and all records are as they were.

## Main definitions

* `Session.writing` — a statement about one record, and what comes behind it.
* `Session.Writes` — how the writing of a record ends.
* `Session.IsWriter` — the operations that write a named record, with their statements.

## Main statements

* `Session.exists_writes` — what is sent, and what becomes of the records.
* `Session.IsWriter.run_cases` — every writer is refused, or writes.
-/

namespace DataMapper

open Work

namespace Session

variable {α : Type} {w v : Workspace} {name : String} {r : Record} {m : Mapping}

/-! ## The statement that writes -/

/-- A statement about one record, and what comes behind it. -/
def writing (p : PreparedStatement) (tag : String) (next : Nat → Work Unit) (c : Nat) :
    Work Unit := do
  expectOne (← runExecute c p.sql p.parameters (some tag)) p.sql
  next c

/-- How it ends to write a record on the connection `c`, behind the recovery of the session. -/
inductive Writes (p : PreparedStatement) (next : Nat → Work Unit) (c : Nat) (w : Workspace)
    (recovery : List SentStatement) : Ending Unit → Workspace → List SentStatement → Prop where
  | unsent {ending : Ending Unit} {v : Workspace} (asked : w.Asked recovery v)
      (failed : ∀ a, ending ≠ .done a) : Writes p next c w recovery ending v []
  /-- The statement has failed, or it has not changed one row. -/
  | refused {ending : Ending Unit} {v : Workspace} {reply : Option Reply}
      (asked : w.Asked (recovery ++ [⟨c, p.sql, p.parameters, reply⟩]) v)
      (failed : ∀ a, ending ≠ .done a) :
      Writes p next c w recovery ending v [⟨c, p.sql, p.parameters, reply⟩]
  | written {ending : Ending Unit} {u u' v : Workspace} {reply : Option Reply}
      {more : List SentStatement} (one : Reply.affectedRows reply = .ok 1)
      (on : ∀ st ∈ more, st.connection = c)
      (asked : w.Asked (recovery ++ [⟨c, p.sql, p.parameters, reply⟩]) u)
      (goesOn : next c u = (ending, u'))
      (sent : u'.database.server.sent = u.database.server.sent ++ more) (left : u'.Asked [] v) :
      Writes p next c w recovery ending v (⟨c, p.sql, p.parameters, reply⟩ :: more)

theorem Writes.sent_eq {p : PreparedStatement} {next : Nat → Work Unit} {c : Nat}
    {recovery sts : List SentStatement} {ending : Ending Unit}
    (h : Writes p next c w recovery ending v sts) :
    v.database.server.sent = w.database.server.sent ++ (recovery ++ sts) := by
  cases h with
  | unsent asked => rw [asked.sent, List.append_nil]
  | refused asked => exact asked.sent
  | written _ _ asked _ sent left =>
    rw [left.sent, List.append_nil, sent, asked.sent]
    simp

theorem writing_cases (p : PreparedStatement) (tag : String) (next : Nat → Work Unit) (c : Nat)
    (w : Workspace) :
    ∃ reply v, w.Asked [⟨c, p.sql, p.parameters, reply⟩] v ∧
      ((∃ ending, writing p tag next c w = (ending, v) ∧ ∀ a, ending ≠ .done a) ∨
        Reply.affectedRows reply = .ok 1 ∧ writing p tag next c w = next c v) := by
  obtain ⟨reply, v, asked, ⟨l, cut⟩ | run⟩ :=
    run_asked isReading_affectedRows c p.sql p.parameters (some tag) w
  · refine ⟨reply, v, asked, .inl ⟨.interrupted l, ?_, fun _ ended => by cases ended⟩⟩
    rw [writing, bind_apply, runExecute, cut]
  · refine ⟨reply, v, asked, ?_⟩
    rw [writing, bind_apply, runExecute, run]
    cases affected : Reply.affectedRows reply with
    | error e => exact .inl ⟨.failed e, rfl, fun _ ended => by cases ended⟩
    | ok n =>
      by_cases one : n = 1
      · exact .inr ⟨by rw [one], by rw [one]; rfl⟩
      · refine .inl ⟨.failed (.rowCount 1 n p.sql), ?_, fun _ ended => by cases ended⟩
        simp only [Ending.ofExcept, bind_apply, expectOne, if_neg one]
        rfl

/-- The work adds statements on one connection to those that were sent. -/
theorem exists_sent_of_does {x : Work α} {c : Nat} {ok : String → Prop}
    (does : Does (sending c ok) x) (w : Workspace) : ∃ sts, (∀ st ∈ sts, st.connection = c) ∧
      (x w).2.database.server.sent = w.database.server.sent ++ sts := by
  have sends : Sends c ok w.standing (x w).2.standing := by
    cases does w with
    | ended run _ holds => rwa [run]
    | interrupted run _ holds => rwa [run]
  obtain ⟨sts, on, after⟩ := sends
  exact ⟨sts, fun st hst => (on st hst).1, congrArg (·.ledger.sent) after⟩

theorem exists_writes {p : PreparedStatement} {next : Nat → Work Unit} {ok : String → Prop}
    (does : ∀ c, Does (sending c ok) (next c)) (tag : String) (w : Workspace) :
    let run := onConnection (writing p tag next) w
    ∃ recovery sts, w.session.Recovers recovery ∧
      Writes p next w.standing.connection w recovery run.1 run.2 sts := by
  obtain ⟨recovery, u, recovers, asked, ⟨ending, run, failed⟩ | ⟨v, left, run⟩⟩ :=
    onConnection_cases (writing p tag next) w
  · rw [run]
    exact ⟨recovery, [], recovers, .unsent asked failed⟩
  · rw [run]
    obtain ⟨reply, u₁, sent, ⟨ending, refused, failed⟩ | ⟨one, goesOn⟩⟩ :=
      writing_cases p tag next w.standing.connection u
    · rw [refused] at left ⊢
      have all := (asked.trans sent).trans left
      rw [List.append_nil] at all
      exact ⟨recovery, _, recovers, .refused all failed⟩
    · rw [goesOn] at left ⊢
      obtain ⟨more, on, sent'⟩ := exists_sent_of_does (does w.standing.connection) u₁
      exact ⟨recovery, _, recovers, .written one on (asked.trans sent) rfl sent' left⟩

/-- The operations that write a named record, each with the statement that does it. -/
inductive IsWriter (m : Mapping) (o : BuildOptions) (st : TextStore) (r : Record) (name : String) :
    Work Unit → Except Error PreparedStatement → Prop where
  | insert : IsWriter m o st r name (insert name) (m.insertStatement o st r)
  | update : IsWriter m o st r name (update name) (m.updateStatement o st r m.fields)
  | updateFields (names : List String) : IsWriter m o st r name (updateFields name names)
      (m.fieldsNamed names >>= m.updateStatement o st r)

theorem looks_mappingOf_eq {t : RecordType} (built : Mapping.ofType t = .ok m) :
    (mappingOf t).Looks fun _ => .ok m := by
  intro w
  rw [mappingOf, built]
  rfl

/-- The rest of an insertion: the identity, and what the database has filled. -/
def inserted (m : Mapping) (name tag : String) (p : PreparedStatement) (c : Nat) : Work Unit := do
  if m.identity.isNone then return
  let id ← insertedId c m name tag
  readBack c m name id p.stamped tag

theorem does_inserted (m : Mapping) (name tag : String) (p : PreparedStatement) (c : Nat) :
    Does (sending c fun _ => True) (inserted m name tag p c) := by
  unfold inserted
  split
  · exact .pure _
  · refine .bind (does_insertedId (fun _ _ => trivial) c m name tag) fun id => ?_
    exact does_readBack (fun _ _ => trivial) c m name id _ _

section

variable (found : w.find name = .ok r)
include found

theorem updateWith_cases (m : Mapping) (fields : List MappedField) :
    (∃ e, m.updateStatement w.database.config.buildOptions w.store r fields = .error e ∧
        updateWith m name fields w = (.failed e, w)) ∨
      ∃ p id, m.updateStatement w.database.config.buildOptions w.store r fields = .ok p ∧
        updateWith m name fields w = onConnection (writing p (m.typeName ++ ".update")
          fun c => readBack c m name id p.stamped (m.typeName ++ ".update")) w := by
  cases prepared : m.updateStatement w.database.config.buildOptions w.store r fields with
  | error e =>
    refine .inl ⟨e, rfl, ?_⟩
    rw [updateWith, (looks_record name).bind_eq found, looks_options.bind_eq rfl,
      looks_texts.bind_eq rfl, prepared]
    rfl
  | ok p =>
    obtain ⟨⟨i, id⟩, stored, -⟩ := Except.exists_of_bind prepared
    refine .inr ⟨p, id, rfl, ?_⟩
    rw [updateWith, (looks_record name).bind_eq found, looks_options.bind_eq rfl,
      looks_texts.bind_eq rfl, (looks_ofExcept _).bind_eq prepared, looks_texts.bind_eq rfl,
      (looks_ofExcept _).bind_eq stored]
    rfl

variable (built : Mapping.ofType r.type = .ok m)
include built

theorem insert_cases :
    (∃ e, m.insertStatement w.database.config.buildOptions w.store r = .error e ∧
        insert name w = (.failed e, w)) ∨
      ∃ p, m.insertStatement w.database.config.buildOptions w.store r = .ok p ∧
        insert name w = onConnection (writing p (m.typeName ++ ".insert")
          (inserted m name (m.typeName ++ ".insert") p)) w := by
  have reads : insert name w =
      (Work.ofExcept (m.insertStatement w.database.config.buildOptions w.store r) >>= fun p =>
        onConnection (writing p (m.typeName ++ ".insert")
          (inserted m name (m.typeName ++ ".insert") p))) w := by
    rw [insert, (looks_record name).bind_eq found, (looks_mappingOf_eq built).bind_eq rfl,
      looks_options.bind_eq rfl, looks_texts.bind_eq rfl]
    rfl
  rw [reads]
  cases m.insertStatement w.database.config.buildOptions w.store r with
  | error e => exact .inl ⟨e, rfl, rfl⟩
  | ok p => exact .inr ⟨p, rfl, rfl⟩

theorem update_eq : update name w = updateWith m name m.fields w := by
  rw [update, (looks_record name).bind_eq found, (looks_mappingOf_eq built).bind_eq rfl]

/-- A writer fails without a trace, or it sends its statement and goes on. -/
theorem IsWriter.run_cases {x : Work Unit} {prepared : Except Error PreparedStatement}
    (writer : IsWriter m w.database.config.buildOptions w.store r name x prepared) :
    (∃ e, prepared = .error e ∧ x w = (.failed e, w)) ∨
      ∃ p tag next, prepared = .ok p ∧ (∀ c, Does (sending c fun _ => True) (next c)) ∧
        x w = onConnection (writing p tag next) w := by
  have readsBack (id : Int64) (p : PreparedStatement) (tag : String) (c : Nat) :
      Does (sending c fun _ => True) (readBack c m name id p.stamped tag) :=
    does_readBack (fun _ _ => trivial) c m name id _ _
  cases writer with
  | insert =>
    obtain refused | ⟨p, prepared, run⟩ := insert_cases found built
    · exact .inl refused
    · exact .inr ⟨p, _, _, prepared, does_inserted m name _ p, run⟩
  | update =>
    rw [update_eq found built]
    obtain refused | ⟨p, id, prepared, run⟩ := updateWith_cases found m m.fields
    · exact .inl refused
    · exact .inr ⟨p, _, _, prepared, readsBack id p _, run⟩
  | updateFields names =>
    have reads : Session.updateFields name names w =
        (Work.ofExcept (m.fieldsNamed names) >>= updateWith m name) w := by
      rw [Session.updateFields, (looks_record name).bind_eq found,
        (looks_mappingOf_eq built).bind_eq rfl]
    rw [reads]
    cases m.fieldsNamed names with
    | error e => exact .inl ⟨e, rfl, rfl⟩
    | ok fields =>
      obtain refused | ⟨p, id, prepared, run⟩ := updateWith_cases found m fields
      · exact .inl refused
      · exact .inr ⟨p, _, _, prepared, readsBack id p _, run⟩

end

end Session

end DataMapper
