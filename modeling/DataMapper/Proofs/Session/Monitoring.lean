import DataMapper.Proofs.Session.Books
import DataMapper.Proofs.Session.Composition

/-!
# What monitors are told

On every run the monitors of a database are told once of every statement that a session waits for to
its end. They are not told of the rollback behind a session that has gone away, nor of a statement
that is still under way when a limit of time runs out.

## Main definitions

* `Told` — what has been sent, and what monitors have been told meanwhile.
* `Work.Tells` — work whose statements are reported.
* `Turn.observed` — the statements of a turn that are reported.

## Main statements

* `Composed.tells`, `Move.told` — what one operation and one turn of a session report.
* `System.observed_run` — what a run reports, and when that is all that was sent.
-/

namespace DataMapper

open Work

/-! ## Reports -/

theorem Report.source_of_entry? {threshold : Nat} {r : Report} {e : LogEntry}
    (h : r.entry? threshold = some e) : e.source = .statement := by
  cases r with
  | completed c duration o =>
    cases h
    rfl
  | slow => cases h

/-- The statements have been sent, and these are the reports that each monitor has been given. -/
structure Told (d d' : Database) (sts : List SentStatement) (rs : List Report) : Prop where
  sent : d'.server.sent = d.server.sent ++ sts
  reports : d'.reports = d.reports ++ rs
  stats : d'.stats = rs.foldl Stats.observe d.stats
  log : d'.statementLog =
    d.statementLog ++ rs.filterMap (Report.entry? d.config.slowThreshold)
  config : d'.config = d.config

namespace Told

variable {d d' d'' : Database} {sts sts' : List SentStatement} {rs rs' : List Report}

theorem trans (h : Told d d' sts rs) (g : Told d' d'' sts' rs') :
    Told d d'' (sts ++ sts') (rs ++ rs') where
  sent := by rw [g.sent, h.sent, List.append_assoc]
  reports := by rw [g.reports, h.reports, List.append_assoc]
  stats := by rw [g.stats, h.stats, List.foldl_append]
  log := by rw [g.log, h.log, h.config, List.filterMap_append, List.append_assoc]
  config := g.config.trans h.config

/-- The server has been told something, or time has passed. -/
theorem of_server {server : Server} {clock : Nat} (h : server.sent = d.server.sent) :
    Told d { d with server, clock } [] [] where
  sent := by simp [h]
  reports := (List.append_nil _).symm
  stats := rfl
  log := (List.append_nil _).symm
  config := rfl

theorem of_unheard {w v : Workspace} (h : Unheard w v) : Told w.database v.database [] [] where
  sent := by simp [h.sent]
  reports := by simp [h.reports]
  stats := by simp [h.stats]
  log := by simp [h.log]
  config := h.config

theorem sending (w : Workspace) (c : Nat) (sql : String) (parameters : List Value) (clock : Nat) :
    Told w.database (w.sending c sql parameters clock).database
      [⟨c, sql, parameters, (w.database.server.send c sql parameters).1⟩] [] where
  sent := Server.sent_send _ _ _ _
  reports := (List.append_nil _).symm
  stats := rfl
  log := (List.append_nil _).symm
  config := rfl

theorem told (w : Workspace) (rs : List Report) :
    Told w.database (w.told rs).database [] rs where
  sent := (List.append_nil _).symm
  reports := rfl
  stats := rfl
  log := by
    have all : ∀ e ∈ rs.filterMap (Report.entry? w.database.config.slowThreshold),
        decide (e.source = .statement) = true := by
      intro e member
      obtain ⟨r, -, logged⟩ := List.mem_filterMap.1 member
      exact decide_eq_true (Report.source_of_entry? logged)
    rw [Database.statementLog, Workspace.told, List.filter_append, List.filter_eq_self.2 all]
    rfl
  config := rfl

end Told

/-! ## Work -/

namespace Work

variable {α β : Type} {x : Work α} {f : α → Work β}

/-- All statements of the work are reported in order, except for one that is under way when a limit
of time interrupts the work. -/
def Tells (x : Work α) : Prop := ∀ w,
  (∃ r v sts rs, x w = (.ofExcept r, v) ∧ Told w.database v.database sts rs ∧
    rs.filterMap Report.notice? = sts.map SentStatement.notice) ∨
  ∃ l v sts st rs, x w = (.interrupted l, v) ∧ Told w.database v.database (sts ++ [st]) rs ∧
    rs.filterMap Report.notice? = sts.map SentStatement.notice

theorem Tells.bind (h : Tells x) (next : ∀ a, Tells (f a)) : Tells (x >>= f) := by
  intro w
  obtain ⟨r, v, sts, rs, run, told, notices⟩ | ⟨l, v, sts, st, rs, run, told, notices⟩ := h w
  · cases r with
    | error e => exact .inl ⟨.error e, v, sts, rs, by rw [bind_apply, run]; rfl, told, notices⟩
    | ok a =>
      have through : (x >>= f) w = f a v := by
        rw [bind_apply, run]
        rfl
      obtain ⟨r, v', sts', rs', run', told', notices'⟩ |
        ⟨l, v', sts', st, rs', run', told', notices'⟩ := next a v
      · refine .inl ⟨r, v', sts ++ sts', rs ++ rs', through.trans run', told.trans told', ?_⟩
        rw [List.filterMap_append, notices, notices', List.map_append]
      · refine .inr ⟨l, v', sts ++ sts', st, rs ++ rs', through.trans run', ?_, ?_⟩
        · rw [List.append_assoc]
          exact told.trans told'
        · rw [List.filterMap_append, notices, notices', List.map_append]
  · exact .inr ⟨l, v, sts, st, rs, by rw [bind_apply, run], told, notices⟩

theorem Tells.attempt (h : Tells x) : Tells (attempt x) := by
  intro w
  obtain ⟨r, v, sts, rs, run, told, notices⟩ | ⟨l, v, sts, st, rs, run, told, notices⟩ := h w
  · exact .inl ⟨.ok r, v, sts, rs, attempt_eq_done.2 run, told, notices⟩
  · exact .inr ⟨l, v, sts, st, rs, by rw [Work.attempt, run], told, notices⟩

theorem tells_run {interpret : Option Reply → Except Error α} {summary : α → Outcome}
    (reading : IsReading interpret summary) (c : Nat) (sql : String) (parameters : List Value)
    (tag : Option String) : Tells (run c sql parameters tag interpret summary) := by
  intro w
  obtain ⟨clock, ⟨l, run⟩ | ⟨rs, notices, run⟩⟩ := run_cases w reading c sql parameters tag
  · exact .inr ⟨l, _, [], _, [], run, Told.sending w c sql parameters clock, rfl⟩
  · exact .inl ⟨_, _, _, rs, run, (Told.sending w c sql parameters clock).trans (.told _ rs),
      notices⟩

theorem Composed.tells (h : Composed (fun _ => True) x) : Tells x := by
  induction h with
  | quiet h =>
    intro w
    obtain ⟨r, v, run, unheard, -⟩ := h w
    exact .inl ⟨r, v, [], [], run, .of_unheard unheard, rfl⟩
  | run reading => exact tells_run reading _ _ _ _
  | bind _ _ first next => exact first.bind next
  | attempt_bind _ _ _ first ok error =>
    refine first.attempt.bind fun outcome => ?_
    cases outcome with
    | ok a => exact ok a
    | error e => exact error e trivial

theorem Guarded.tells (h : Guarded (fun _ => True) x) : Tells x := by
  have looks {α : Type} {x : Work α} {find : Workspace → Except Error α} (h : x.Looks find) :
      Tells x :=
    (Composed.quiet (h.quiet fun _ _ _ => trivial)).tells
  induction h with
  | looks h => exact looks h
  | composed h => exact h.tells
  | looks_bind h _ next => exact (looks h).bind next
  | bind _ next first => exact first.bind fun a => (next a).tells

/-- No monitor is told what the work sends. -/
def Hides (x : Work α) : Prop := ∀ w, ∃ sts, Told w.database (x w).2.database sts []

theorem Hides.bind (h : Hides x) (next : ∀ a, Hides (f a)) : Hides (x >>= f) := by
  intro w
  obtain ⟨sts, told⟩ := h w
  rw [bind_apply]
  generalize x w = first at told ⊢
  obtain ⟨a | e | l, v⟩ := first
  · obtain ⟨sts', told'⟩ := next a v
    exact ⟨sts ++ sts', told.trans told'⟩
  · exact ⟨sts, told⟩
  · exact ⟨sts, told⟩

theorem Quiet.hides {fails : Error → Prop} (h : Quiet fails x) : Hides x := by
  intro w
  obtain ⟨r, v, run, unheard, -⟩ := h w
  rw [run]
  exact ⟨[], .of_unheard unheard⟩

theorem hides_pure (a : α) : Hides (pure a : Work α) :=
  Quiet.hides (.pure a : Quiet (fun _ => True) _)

theorem hides_send (c : Nat) (sql : String) (parameters : List Value) :
    Hides (send c sql parameters) := by
  intro w
  obtain ⟨clock, run | ⟨l, run⟩⟩ := send_cases w c sql parameters
  · rw [run]
    exact ⟨_, Told.sending w c sql parameters clock⟩
  · rw [run]
    exact ⟨_, Told.sending w c sql parameters clock⟩

end Work

namespace Session

/-- A session goes away without a word. -/
theorem hides_leave (canSend : Bool) : Hides (leave canSend) := by
  have quiet {α : Type} {x : Work α} (h : Quiet (fun _ => True) x) : Hides x := h.hides
  refine .bind (quiet quiet_takeConnection) fun connection => ?_
  refine .bind (quiet (.setSession _)) fun _ => ?_
  split
  · exact quiet (.pure _)
  · refine .bind (quiet (.warn _ _)) fun _ => .bind (hides_send _ _ _) fun reply => ?_
    split
    · exact quiet (quiet_release _)
    · exact .bind (quiet (.warn _ _)) fun _ => quiet (quiet_discard _)
  · exact .bind (quiet (.warn _ _)) fun _ => quiet (quiet_discard _)

end Session

/-! ## Turns -/

namespace Move

/-- The session goes away, or another one takes its place. -/
def departs : Move → Bool
  | leave _ | act _ .newSession => true
  | _ => false

/-- The statistics begin anew. -/
def resets : Move → Bool
  | act _ .resetStats => true
  | _ => false

/-- Of the statements that a move sends, those that are reported: none when the session goes away,
and all but the last one when the move does not come to its end. -/
def observed (m : Move) (whole : Bool) (sts : List SentStatement) : List SentStatement :=
  if m.departs then [] else if whole then sts else sts.dropLast

/-- Monitors are told of what work sends as they are told of what the move sends. -/
def Tells (m : Move) (x : Work Bool) : Prop := ∀ w, ∃ whole w' sts rs, x w = (.done whole, w') ∧
  Told w.database w'.database sts rs ∧
  rs.filterMap Report.notice? = (m.observed whole sts).map SentStatement.notice

section

variable {α : Type} {x : Work α} {m : Move}

theorem tells_timed (stays : m.departs = false) (h : x.Tells) (ds : List Nat) :
    m.Tells (timed ds x) := by
  intro w
  obtain ⟨r, v, sts, rs, run, told, notices⟩ | ⟨l, v, sts, st, rs, run, told, notices⟩ :=
    h { w with deadlines := ds }
  · refine ⟨true, { v with deadlines := w.deadlines }, sts, rs, ?_, told, ?_⟩
    · cases r <;> simp only [timed, run, Ending.ofExcept, Ending.isWhole]
    · simp [observed, stays, notices]
  · refine ⟨false, { v with deadlines := w.deadlines }, sts ++ [st], rs, ?_, told, ?_⟩
    · simp only [timed, run, Ending.isWhole]
    · simp [observed, stays, notices]

theorem tells_timed_of_hides (goes : m.departs = true) (h : x.Hides) (ds : List Nat) :
    m.Tells (timed ds x) := by
  intro w
  obtain ⟨sts, told⟩ := h { w with deadlines := ds }
  exact ⟨_, { (x { w with deadlines := ds }).2 with deadlines := w.deadlines }, sts, [], rfl, told,
    by simp [observed, goes]⟩

/-- Where nothing is sent there is nothing to report. -/
theorem tells_timed_of_idle (h : ∀ w, Told w.database (x w).2.database [] []) (ds : List Nat) :
    m.Tells (timed ds x) := fun w =>
  ⟨_, { (x { w with deadlines := ds }).2 with deadlines := w.deadlines }, [], [], rfl,
    h { w with deadlines := ds }, by simp [observed]⟩

end

theorem tells_perform {m : Move} (keeps : m.resets = false) : m.Tells m.perform := by
  have any (e : Error) (_ : e.isValidation = false) : True := trivial
  cases m with
  | settle ds outcome =>
    exact tells_timed (x := Session.settle outcome) rfl
      (Session.composed_settle any fun _ _ => trivial).tells ds
  | leave canSend => exact tells_timed_of_hides rfl (Session.hides_leave canSend) []
  | act ds a =>
    cases operates : a.operates with
    | true =>
      have stays : (act ds a).departs = false := by cases a <;> first | rfl | cases operates
      exact tells_timed stays (a.guarded any operates).tells ds
    | false =>
      -- whether these send anything is not told from their shape
      have idle (h : ∀ w, Told w.database (a.perform w).2.database [] []) :
          (act ds a).Tells (act ds a).perform := tells_timed_of_idle h ds
      cases a with
      | sleep nanos =>
        refine idle fun w => ?_
        obtain ⟨time, run | ⟨l, run⟩⟩ := pause_cases w nanos <;>
          simp only [Action.perform, bind_apply, run] <;> exact .of_server rfl
      | script rules => exact idle fun w => .of_server (d := w.database) rfl
      | latency nanos => exact idle fun w => .of_server (d := w.database) rfl
      | refuse message => exact idle fun w => .of_server (d := w.database) rfl
      | resetStats => cases keeps
      | newSession =>
        have hides : (Action.newSession).perform.Hides :=
          (Session.hides_leave true).bind fun _ => hides_pure _
        exact tells_timed_of_hides (m := act ds .newSession) rfl hides ds
      | _ => cases operates

theorem perform_of_resets {m : Move} (h : m.resets = true) (w : Workspace) :
    m.perform w = (.done true, { w with database := { w.database with stats := {} } }) := by
  cases m with
  | act ds a =>
    cases a with
    | resetStats => rfl
    | _ => cases h
  | settle | leave => cases h

end Move

namespace Turn

/-- The statements of the turn that are reported. -/
def observed (t : Turn) : List SentStatement := t.move.observed t.whole t.sent

theorem observed_prefix (t : Turn) : t.observed <+: t.sent := by
  unfold observed Move.observed
  split
  · exact List.nil_prefix
  · split
    · exact List.prefix_refl _
    · exact List.dropLast_prefix _

theorem observed_eq_sent_iff (t : Turn) :
    t.observed = t.sent ↔ t.sent = [] ∨ t.whole = true ∧ t.move.departs = false := by
  have shorter : t.sent.dropLast = t.sent ↔ t.sent = [] := by
    cases t.sent with
    | nil => simp
    | cons st sts =>
      refine iff_of_false (fun same => ?_) (by simp)
      have length := congrArg List.length same
      simp at length
  unfold observed Move.observed
  cases t.move.departs <;> cases t.whole <;> simp [shorter, eq_comm]

theorem length_observed_le (ts : List Turn) :
    (ts.flatMap observed).length ≤ (ts.flatMap sent).length := by
  induction ts with
  | nil => simp
  | cons t ts ih =>
    have here := t.observed_prefix.length_le
    simp only [List.flatMap_cons, List.length_append]
    omega

/-- As many statements of some turns are reported as are sent, only if those of each turn are. -/
theorem observed_eq_sent_of_length {ts : List Turn}
    (h : (ts.flatMap observed).length = (ts.flatMap sent).length) :
    ∀ t ∈ ts, t.observed = t.sent := by
  induction ts with
  | nil => simp
  | cons t ts ih =>
    have here := t.observed_prefix.length_le
    have there := length_observed_le ts
    simp only [List.flatMap_cons, List.length_append] at h
    rw [List.forall_mem_cons]
    exact ⟨t.observed_prefix.eq_of_length (by omega), ih (by omega)⟩

end Turn

namespace Turned

variable {σ σ' : System} {t : Turn} {s : Session} {r : Receipt} (h : Turned σ t s r σ')
include h

theorem sent_eq : σ'.workspace.database.server.sent =
    σ.workspace.database.server.sent ++ t.sent := by
  rw [h.sent]
  exact h.accounts.sent

theorem told (keeps : t.move.resets = false) :
    ∃ rs, Told σ.workspace.database σ'.workspace.database t.sent rs ∧
      rs.filterMap Report.notice? = t.observed.map SentStatement.notice := by
  obtain ⟨whole, w', sts, rs, run, told, notices⟩ :=
    Move.tells_perform keeps { σ.workspace with session := t.before }
  obtain ⟨same, rfl⟩ := Prod.mk.inj (h.run.symm.trans run)
  cases same
  obtain rfl : t.sent = sts := List.append_cancel_left (h.sent_eq.symm.trans told.sent)
  exact ⟨rs, told, notices⟩

/-- Statistics that begin anew are all that changes. -/
theorem database_of_resets (resets : t.move.resets = true) :
    σ'.workspace.database = { σ.workspace.database with stats := {} } := by
  have run := h.run.symm.trans
    (Move.perform_of_resets resets { σ.workspace with session := t.before })
  rw [(Prod.mk.inj run).2]

end Turned

/-! ## Runs -/

/-- The change is not noticed by any monitor. -/
structure Aside.IsSilent (a : Aside) : Prop where
  reports : ∀ w, (a.change w).database.reports = w.database.reports
  stats : ∀ w, (a.change w).database.stats = w.database.stats
  log : ∀ w, (a.change w).database.statementLog = w.database.statementLog
  config : ∀ w, (a.change w).database.config = w.database.config

/-- What the monitors of a system have been told so far. -/
structure Watched (config : Config) (σ : System) : Prop where
  settings : σ.workspace.database.config = config
  notices : σ.workspace.database.reports.filterMap Report.notice? =
    (σ.turns.flatMap Turn.observed).map SentStatement.notice
  log : σ.workspace.database.statementLog =
    σ.workspace.database.reports.filterMap (Report.entry? config.slowThreshold)
  stats : (∀ t ∈ σ.turns, t.move.resets = false) →
    σ.workspace.database.stats = σ.workspace.database.reports.foldl Stats.observe {}

namespace Watched

variable {config : Config} {σ σ' : System}

theorem start (rules : List Rule) (store : TextStore) (records : List (String × Record)) :
    Watched config (System.start config rules store records) := by
  constructor <;> intros <;> rfl

theorem turned (h : Watched config σ) {t : Turn} {s : Session} {r : Receipt}
    (g : Turned σ t s r σ') : Watched config σ' := by
  cases resets : t.move.resets with
  | true =>
    have database := g.database_of_resets resets
    have sent : t.sent = [] := by
      have same := g.sent_eq
      rw [database] at same
      exact List.self_eq_append_right.1 same
    have observed : t.observed = [] := by simp [Turn.observed, Move.observed, sent]
    refine ⟨?_, ?_, ?_, ?_⟩
    · rw [database]
      exact h.settings
    · rw [database, g.turns, List.flatMap_append, List.map_append]
      simpa [observed] using h.notices
    · rw [database]
      exact h.log
    · intro never
      have kept := never t (by simp [g.turns])
      rw [resets] at kept
      cases kept
  | false =>
    obtain ⟨rs, told, notices⟩ := g.told resets
    refine ⟨told.config.trans h.settings, ?_, ?_, ?_⟩
    · rw [told.reports, List.filterMap_append, h.notices, notices, g.turns, List.flatMap_append,
        List.map_append]
      simp
    · rw [told.log, told.reports, List.filterMap_append, h.log, h.settings]
    · intro never
      have before := h.stats fun t' ht' => never t' (by simp [g.turns, ht'])
      rw [told.stats, told.reports, List.foldl_append, before]

theorem stepped (h : Watched config σ) {e : Event} (g : Stepped σ e σ')
    (silent : ∀ a, e = .meanwhile a → a.IsSilent) : Watched config σ' := by
  cases g with
  | idle => exact h
  | opened | cancelled => exact ⟨h.settings, h.notices, h.log, h.stats⟩
  | turned g => exact h.turned g
  | @meanwhile a =>
    have silent := silent a rfl
    refine ⟨?_, ?_, ?_, ?_⟩
    · exact (silent.config _).trans h.settings
    · exact (silent.reports _).symm ▸ h.notices
    · rw [silent.log, silent.reports]
      exact h.log
    · intro never
      rw [silent.stats, silent.reports]
      exact h.stats never

theorem run (h : Watched config σ) {es : List Event}
    (silent : ∀ a, .meanwhile a ∈ es → a.IsSilent) : Watched config (σ.run es) := by
  induction es generalizing σ with
  | nil => exact h
  | cons e es ih =>
    refine ih (h.stepped (σ.stepped_step e) ?_) fun a member =>
      silent a (List.mem_cons_of_mem e member)
    rintro a rfl
    exact silent a List.mem_cons_self

end Watched

namespace System

/-- On every run the monitors are told, once and in order, of the statements that are observed, and
statistics that never begin anew count exactly these. That is all that was sent, exactly if no
session has sent anything when it went away, and nothing was interrupted on its way. -/
theorem observed_run (config : Config) (rules : List Rule) (store : TextStore)
    (records : List (String × Record)) {es : List Event}
    (silent : ∀ a, .meanwhile a ∈ es → a.IsSilent) :
    let σ := (start config rules store records).run es
    let d := σ.workspace.database
    let observed := σ.turns.flatMap Turn.observed
    d.reports.filterMap Report.notice? = observed.map SentStatement.notice ∧
      d.statementLog = d.reports.filterMap (Report.entry? config.slowThreshold) ∧
      ((∀ t ∈ σ.turns, t.move.resets = false) →
        d.stats.Counts (observed.map SentStatement.notice)) ∧
      (d.reports.filterMap Report.notice? = σ.ledger.sent.map SentStatement.notice ↔
        ∀ t ∈ σ.turns, t.sent = [] ∨ t.whole = true ∧ t.move.departs = false) := by
  intro σ d observed
  have watched : Watched config σ := (Watched.start rules store records).run silent
  have books : Books σ := (Books.start config rules store records).run es
  refine ⟨watched.notices, watched.log, ?_, ?_, ?_⟩
  · intro never
    have counts := Stats.counts_foldl d.reports
    rw [watched.notices, ← watched.stats never] at counts
    exact counts
  · intro all t member
    refine t.observed_eq_sent_iff.1 (Turn.observed_eq_sent_of_length ?_ t member)
    have same := congrArg List.length (watched.notices.symm.trans all)
    rw [List.length_map, List.length_map] at same
    rw [same, books.sent]
  · intro all
    have same : observed = σ.turns.flatMap Turn.sent :=
      List.flatMap_congr fun t member => t.observed_eq_sent_iff.2 (all t member)
    rw [watched.notices, ← books.sent, ← same]

/-- Time passes. -/
def lateness : Aside := ⟨fun w => w.atTime 5, fun _ => rfl⟩

/-- A transaction is interrupted behind a statement that has failed, and before the next operation
it is rolled back. -/
def recoveredEvents : List Event :=
  [.opened, .turn 0 (.act [] (.begin {})), .turn 0 (.act [] (.executeSql "UPDATE t SET a=1" [])),
    .cancelled 0, .meanwhile lateness, .turn 0 (.act [] (.savepoint "here"))]

def recoveredRun : System :=
  (start {} [⟨"UPDATE", .failure (.connection "reset"), none⟩] .empty []).run recoveredEvents

/-- The rollback of an interrupted transaction is reported like any other statement. -/
theorem observed_run_recovered :
    (∀ a, .meanwhile a ∈ recoveredEvents → a.IsSilent) ∧
      recoveredRun.ledger.sent.map SentStatement.sql =
        ["BEGIN ISOLATION LEVEL SERIALIZABLE", "UPDATE t SET a=1", "ROLLBACK"] ∧
      recoveredRun.workspace.database.reports.filterMap Report.notice? =
        recoveredRun.ledger.sent.map SentStatement.notice ∧
      recoveredRun.workspace.database.stats.total = 3 ∧
      recoveredRun.workspace.database.stats.failed = 1 := by
  have silent : ∀ a, .meanwhile a ∈ recoveredEvents → a.IsSilent := by
    intro a member
    obtain rfl : a = lateness := by simpa [recoveredEvents] using member
    exact ⟨fun _ => rfl, fun _ => rfl, fun _ => rfl, fun _ => rfl⟩
  obtain ⟨-, -, counts, all⟩ := observed_run {} [⟨"UPDATE", .failure (.connection "reset"), none⟩]
    .empty [] silent
  have whole : ∀ t ∈ recoveredRun.turns, t.whole = true ∧ t.move.departs = false := by
    have turns : recoveredRun.turns.map (fun t => (t.whole, t.move.departs)) =
      [(true, false), (true, false), (true, false)] := rfl
    intro t member
    have mine := List.mem_map_of_mem (f := fun t : Turn => (t.whole, t.move.departs)) member
    rw [turns] at mine
    simpa using mine
  have never : ∀ t ∈ recoveredRun.turns, t.move.resets = false := by
    have turns : recoveredRun.turns.map (fun t => t.move.resets) = [false, false, false] := rfl
    intro t member
    have mine := List.mem_map_of_mem (f := fun t : Turn => t.move.resets) member
    rw [turns] at mine
    simpa using mine
  refine ⟨silent, rfl, all.2 fun t member => .inr (whole t member), (counts never).total, ?_⟩
  exact (counts never).failed.trans (by decide +kernel)

/-- A session goes away inside a transaction. -/
def leftRun : System :=
  (start {} [] .empty []).run [.opened, .turn 0 (.act [] (.begin {})), .turn 0 (.leave true)]

/-- The rollback behind a session that has gone away is not reported. -/
theorem not_observed_run_leave :
    leftRun.ledger.sent.map SentStatement.sql =
        ["BEGIN ISOLATION LEVEL SERIALIZABLE", "ROLLBACK"] ∧
      leftRun.turns.map (·.move.resets) = [false, false] ∧
      (leftRun.workspace.database.reports.filterMap Report.notice?).map Notice.sql =
        ["BEGIN ISOLATION LEVEL SERIALIZABLE"] ∧
      leftRun.workspace.database.stats.total = 1 ∧
      Sql.StatementType.ofText "ROLLBACK" = .transaction ∧
      leftRun.workspace.database.stats.transaction = 1 :=
  ⟨rfl, rfl, rfl, by decide +kernel, by decide +kernel, by decide +kernel⟩

end System

end DataMapper
