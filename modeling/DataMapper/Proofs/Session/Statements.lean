import DataMapper.Proofs.Monitor.Counts
import DataMapper.Proofs.Session.Ends

/-!
# Single statements

A statement that is sent is on record at the server together with its reply, and time passes until
the reply is there. Unless a limit of time runs out before that, the statement is reported, and its
result is what the reply says. Nothing else changes.

## Main definitions

* `SentStatement.notice` — what monitors learn of a statement.
* `Workspace.sending`, `Workspace.told` — the workspace behind a statement, and behind reports.
* `Work.IsReading` — how replies are read.

## Main statements

* `Work.run_cases` — what a statement leaves behind.
-/

namespace DataMapper

/-- What monitors learn of the statement. -/
def SentStatement.notice (st : SentStatement) : Notice := ⟨st.sql, st.parameters, st.failed⟩

namespace Workspace

variable (w : Workspace)

/-- The workspace after a statement has been sent, at some later time. -/
def sending (c : Nat) (sql : String) (parameters : List Value) (clock : Nat) : Workspace :=
  { w with database := { w.database with
      server := (w.database.server.send c sql parameters).2
      clock } }

/-- The workspace after the monitors have been told. -/
def told (rs : List Report) : Workspace :=
  { w with database := { w.database with
      reports := w.database.reports ++ rs
      stats := rs.foldl Stats.observe w.database.stats
      log := w.database.log ++ rs.filterMap (Report.entry? w.database.config.slowThreshold) } }

theorem told_told (rs rs' : List Report) : (w.told rs).told rs' = w.told (rs ++ rs') := by
  simp [told]

end Workspace

theorem Server.sent_send (s : Server) (c : Nat) (sql : String) (parameters : List Value) :
    (s.send c sql parameters).2.sent =
      s.sent ++ [⟨c, sql, parameters, (s.send c sql parameters).1⟩] := rfl

namespace Work

variable {α : Type} (w : Workspace)

theorem pause_cases (nanos : Nat) :
    ∃ time, pause nanos w = (.done (), w.atTime time) ∨
      ∃ l, pause nanos w = (.interrupted l, w.atTime time) := by
  unfold pause
  dsimp only
  split
  · exact ⟨_, .inl rfl⟩
  · exact ⟨_, .inr ⟨_, rfl⟩⟩

theorem report_eq (r : Report) : report r w = (.done (), w.told [r]) := by
  cases r <;> rfl

theorem send_cases (c : Nat) (sql : String) (parameters : List Value) :
    ∃ clock,
      send c sql parameters w = (.done (w.database.server.send c sql parameters).1,
        w.sending c sql parameters clock) ∨
      ∃ l, send c sql parameters w = (.interrupted l, w.sending c sql parameters clock) := by
  have waits : send c sql parameters w =
      (do
        pause (w.database.server.send c sql parameters).2.latency
        return (w.database.server.send c sql parameters).1 : Work (Option Reply))
        (w.sending c sql parameters w.database.clock) := rfl
  obtain ⟨time, run | ⟨l, run⟩⟩ := pause_cases (w.sending c sql parameters w.database.clock)
    (w.database.server.send c sql parameters).2.latency
  · refine ⟨time, .inl ?_⟩
    rw [waits, bind_apply, run]
    rfl
  · refine ⟨time, .inr ⟨l, ?_⟩⟩
    rw [waits, bind_apply, run]
    rfl

/-- Only the failure of a statement is read as an error, and only an error is summed up as a
failure. -/
structure IsReading (interpret : Option Reply → Except Error α) (summary : α → Outcome) : Prop where
  failure : ∀ reply e, interpret reply = .error e ↔ reply = some (.failure e)
  success : ∀ a, (summary a).isFailure = false

theorem isReading_affectedRows : IsReading Reply.affectedRows Outcome.affected where
  failure reply e := by cases reply with
    | none => simp [Reply.affectedRows]
    | some reply => cases reply <;> simp [Reply.affectedRows]
  success _ := rfl

theorem isReading_resultRows :
    IsReading Reply.resultRows fun rows : List Row => .rows rows.length where
  failure reply e := by cases reply with
    | none => simp [Reply.resultRows]
    | some reply => cases reply <;> simp [Reply.resultRows]
  success _ := rfl

theorem isReading_completion : IsReading Reply.completion fun _ => .done where
  failure reply e := by cases reply with
    | none => simp [Reply.completion]
    | some reply => cases reply <;> simp [Reply.completion]
  success _ := rfl

variable {interpret : Option Reply → Except Error α} {summary : α → Outcome}

/-- The outcome that is reported is that of the statement. -/
theorem IsReading.isFailure_eq (reading : IsReading interpret summary) (st : SentStatement) :
    (match interpret st.reply with
      | .ok a => summary a
      | .error e => Outcome.ofMessage e.message).isFailure = st.failed := by
  cases read : interpret st.reply with
  | error e => simp [SentStatement.failed, (reading.failure _ e).1 read, Outcome.ofMessage,
      Outcome.isFailure]
  | ok a =>
    rw [SentStatement.failed]
    cases answered : st.reply with
    | none => exact reading.success a
    | some reply =>
      cases reply with
      | rows | affected => exact reading.success a
      | failure e =>
        rw [(reading.failure _ e).2 answered] at read
        cases read

theorem ofExcept_eq (r : Except Error α) : ofExcept r w = (.ofExcept r, w) := by
  cases r <;> rfl

/-- A statement that took long is reported as slow too, which is no further notice of it. -/
theorem reporting_eq (c : StatementContext) (duration : Nat) (o : Outcome) (r : Except Error α) :
    ∃ rs, rs.filterMap Report.notice? = [⟨c.sql, c.parameters, o.isFailure⟩] ∧
      (do
        report (.completed c duration o)
        if (← config).slowThreshold < duration then report (.slow c duration)
        ofExcept r : Work α) w = (.ofExcept r, w.told rs) := by
  by_cases long : w.database.config.slowThreshold < duration
  · refine ⟨[.completed c duration o, .slow c duration], rfl, ?_⟩
    have long : (w.told [.completed c duration o]).database.config.slowThreshold < duration := long
    simp only [bind_apply, report_eq, config, read, pure_apply, long, if_true, ofExcept_eq,
      w.told_told]
    rfl
  · refine ⟨[.completed c duration o], rfl, ?_⟩
    have long : ¬ (w.told [.completed c duration o]).database.config.slowThreshold < duration :=
      long
    simp only [bind_apply, report_eq, config, read, pure_apply, long, if_false, ofExcept_eq]

/-- A statement is interrupted while its reply is waited for, or it is reported and has the result
that the reply says. -/
theorem run_cases (reading : IsReading interpret summary) (c : Nat) (sql : String)
    (parameters : List Value) (tag : Option String) :
    ∃ clock,
      (∃ l, run c sql parameters tag interpret summary w =
        (.interrupted l, w.sending c sql parameters clock)) ∨
      ∃ rs, rs.filterMap Report.notice? =
          [SentStatement.notice
            ⟨c, sql, parameters, (w.database.server.send c sql parameters).1⟩] ∧
        run c sql parameters tag interpret summary w =
          (.ofExcept (interpret (w.database.server.send c sql parameters).1),
            (w.sending c sql parameters clock).told rs) := by
  obtain ⟨clock, sent | ⟨l, cut⟩⟩ := send_cases w c sql parameters
  · let st : SentStatement :=
      ⟨c, sql, parameters, (w.database.server.send c sql parameters).1⟩
    obtain ⟨rs, notices, told⟩ := reporting_eq (w.sending c sql parameters clock)
      { sql, parameters, tag } (clock - w.database.clock)
      (match interpret st.reply with
        | .ok a => summary a
        | .error e => Outcome.ofMessage e.message)
      (interpret st.reply)
    refine ⟨clock, .inr ⟨rs, ?_, ?_⟩⟩
    · rw [notices, reading.isFailure_eq]
      rfl
    · rw [← told]
      unfold run
      simp only [bind_apply, read, sent]
      rfl
  · refine ⟨clock, .inl ⟨l, ?_⟩⟩
    unfold run
    simp only [bind_apply, read, cut]

end Work

end DataMapper
