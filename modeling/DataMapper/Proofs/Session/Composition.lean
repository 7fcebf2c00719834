import DataMapper.Proofs.Results
import DataMapper.Proofs.Session.Refusals
import DataMapper.Proofs.Session.Statements

/-!
# What operations are composed of

An operation looks at what it is given, and only then does it have anything to do with connections.
From there on it is composed of statements and of steps in between, which neither send anything nor
tell the monitors anything. What holds of every statement and every such step, and is passed on from
one to the next, holds of all operations.

## Main definitions

* `Unheard` — a change that neither the server's script nor a monitor has to do with.
* `Work.Composed` — work that is composed of statements and steps in between.
* `Work.Guarded` — work that looks at what it is given first.

## Main statements

* `Action.guarded` — operations are guarded.
-/

namespace DataMapper

open Work

/-- What has been logged about statements. -/
def Database.statementLog (d : Database) : List LogEntry :=
  d.log.filter fun e => decide (e.source = .statement)

/-- Nothing has been sent, the monitors have not been told anything, no savepoint has been named, and
the server's script and the settings are the same. -/
structure Unheard (w v : Workspace) : Prop where
  rules : v.database.server.rules = w.database.server.rules
  sent : v.database.server.sent = w.database.server.sent
  reports : v.database.reports = w.database.reports
  stats : v.database.stats = w.database.stats
  log : v.database.statementLog = w.database.statementLog
  config : v.database.config = w.database.config
  savepoints : v.database.savepoints = w.database.savepoints

theorem Unheard.of_database {w v : Workspace} (h : v.database = w.database) : Unheard w v := by
  constructor <;> rw [h]

theorem Unheard.refl (w : Workspace) : Unheard w w := .of_database rfl

theorem Unheard.trans {w v u : Workspace} (h : Unheard w v) (g : Unheard v u) : Unheard w u where
  rules := g.rules.trans h.rules
  sent := g.sent.trans h.sent
  reports := g.reports.trans h.reports
  stats := g.stats.trans h.stats
  log := g.log.trans h.log
  config := g.config.trans h.config
  savepoints := g.savepoints.trans h.savepoints

namespace Work

variable {α β : Type} {fails : Error → Prop}

/-- The work comes to its end without being heard of, and fails with nothing but such errors. -/
def Quiet (fails : Error → Prop) (x : Work α) : Prop :=
  ∀ w, ∃ r v, x w = (.ofExcept r, v) ∧ Unheard w v ∧ ∀ e, r = .error e → fails e

/-- Work that is composed of statements and quiet steps. Where it fails without a failing statement,
it does so with such an error. -/
inductive Composed (fails : Error → Prop) : {α : Type} → Work α → Prop
  | quiet {α : Type} {x : Work α} (h : Quiet fails x) : Composed fails x
  | run {α : Type} {interpret : Option Reply → Except Error α} {summary : α → Outcome}
      (reading : IsReading interpret summary) (c : Nat) (sql : String) (parameters : List Value)
      (tag : Option String) : Composed fails (run c sql parameters tag interpret summary)
  | bind {α β : Type} {x : Work α} {f : α → Work β} (first : Composed fails x)
      (next : ∀ a, Composed fails (f a)) : Composed fails (x >>= f)
  | attempt_bind {α β : Type} {x : Work α} {f : Except Error α → Work β} (first : Composed fails x)
      (ok : ∀ a, Composed fails (f (.ok a)))
      (error : ∀ e, fails e → Composed fails (f (.error e))) : Composed fails (attempt x >>= f)

/-- Work that may look at what it is given, and fail for any reason, before it is composed work. -/
inductive Guarded (fails : Error → Prop) : {α : Type} → Work α → Prop
  | looks {α : Type} {x : Work α} {find : Workspace → Except Error α} (h : x.Looks find) :
      Guarded fails x
  | composed {α : Type} {x : Work α} (h : Composed fails x) : Guarded fails x
  | looks_bind {α β : Type} {x : Work α} {find : Workspace → Except Error α} {f : α → Work β}
      (h : x.Looks find) (next : ∀ a, Guarded fails (f a)) : Guarded fails (x >>= f)
  | bind {α β : Type} {x : Work α} {f : α → Work β} (first : Guarded fails x)
      (next : ∀ a, Composed fails (f a)) : Guarded fails (x >>= f)

theorem Looks.quiet {x : Work α} {find : Workspace → Except Error α} (h : x.Looks find)
    (only : ∀ w e, find w = .error e → fails e) : Quiet fails x := by
  intro w
  refine ⟨find w, w, ?_, .refl w, only w⟩
  rw [h w]
  cases find w <;> rfl

namespace Quiet

theorem ofExcept {r : Except Error α} (h : ∀ e, r = .error e → fails e) :
    Quiet fails (Work.ofExcept r) :=
  (looks_ofExcept r).quiet fun _ => h

theorem pure (a : α) : Quiet fails (Pure.pure a : Work α) := ofExcept (r := .ok a) nofun

theorem read : Quiet fails Work.read := fun w => ⟨.ok w, w, rfl, .refl w, nofun⟩

theorem modify {g : Workspace → Workspace} (h : ∀ w, Unheard w (g w)) :
    Quiet fails (Work.modify g) :=
  fun w => ⟨.ok (), g w, rfl, h w, nofun⟩

theorem bind {x : Work α} {f : α → Work β} (h : Quiet fails x) (next : ∀ a, Quiet fails (f a)) :
    Quiet fails (x >>= f) := by
  intro w
  obtain ⟨r, v, run, unheard, known⟩ := h w
  cases r with
  | error e =>
    refine ⟨.error e, v, by rw [bind_apply, run]; rfl, unheard, ?_⟩
    rintro _ ⟨⟩
    exact known e rfl
  | ok a =>
    obtain ⟨r', v', run', unheard', known'⟩ := next a v
    refine ⟨r', v', ?_, unheard.trans unheard', known'⟩
    rw [bind_apply, run]
    exact run'

theorem warn (message : String) (fields : List (String × LogValue)) :
    Quiet fails (Work.warn message fields) :=
  modify fun _ => { rules := rfl, sent := rfl, reports := rfl, stats := rfl, config := rfl
                    savepoints := rfl, log := by simp [Database.statementLog] }

theorem setSession (s : Session) : Quiet fails (Work.setSession s) :=
  modify fun _ => .of_database rfl

end Quiet

namespace Composed

theorem ofExcept {r : Except Error α} (h : ∀ e, r = .error e → fails e) :
    Composed fails (Work.ofExcept r) :=
  .quiet (.ofExcept h)

theorem pure (a : α) : Composed fails (Pure.pure a : Work α) := .quiet (.pure a)

theorem fail {e : Error} (h : fails e) : Composed fails (Work.fail e : Work α) :=
  ofExcept (r := .error e) fun _ same => by cases same; exact h

theorem read : Composed fails Work.read := .quiet .read

theorem config : Composed fails Work.config := .bind read fun _ => pure _

theorem options : Composed fails Work.options := .bind config fun _ => pure _

theorem mapM {γ : Type} {g : γ → Work α} (each : ∀ a, Composed fails (g a)) (as : List γ) :
    Composed fails (as.mapM g) := by
  have loop (bs : List α) : Composed fails (List.mapM.loop g as bs) := by
    induction as generalizing bs with
    | nil => exact pure _
    | cons a as ih => exact bind (each a) fun b => ih (b :: bs)
  exact loop []

theorem runExecute (c : Nat) (sql : String) (parameters : List Value) (tag : Option String) :
    Composed fails (Work.runExecute c sql parameters tag) :=
  run isReading_affectedRows _ _ _ _

theorem runQuery (c : Nat) (sql : String) (parameters : List Value) (tag : Option String) :
    Composed fails (Work.runQuery c sql parameters tag) :=
  run isReading_resultRows _ _ _ _

theorem runBatch (c : Nat) (sql : String) (tag : Option String) :
    Composed fails (Work.runBatch c sql tag) :=
  run isReading_completion _ _ _ _

end Composed

/-! ## Named savepoints -/

theorem savepoints_bind {x : Work α} {f : α → Work β} {w : Workspace}
    (first : (x w).2.database.savepoints = w.database.savepoints)
    (next : ∀ a v, x w = (.done a, v) →
      (f a v).2.database.savepoints = v.database.savepoints) :
    ((x >>= f) w).2.database.savepoints = w.database.savepoints := by
  rw [bind_apply]
  split
  · next a v run =>
    rw [next a v run, ← first, run]
  · next e v run => rw [← first, run]
  · next l v run => rw [← first, run]

/-- Neither statements nor what is between them name savepoints. -/
theorem Composed.savepoints_eq {x : Work α} (h : Composed (fun _ => True) x) (w : Workspace) :
    (x w).2.database.savepoints = w.database.savepoints := by
  induction h generalizing w with
  | quiet h =>
    obtain ⟨r, v, run, unheard, -⟩ := h w
    rw [run]
    exact unheard.savepoints
  | run reading c sql parameters tag =>
    obtain ⟨clock, ⟨l, cut⟩ | ⟨rs, -, run⟩⟩ := run_cases w reading c sql parameters tag
    · rw [cut]
      rfl
    · rw [run]
      rfl
  | bind _ _ first next => exact savepoints_bind (first w) fun a v _ => next a v
  | attempt_bind _ _ _ first ok error =>
    refine savepoints_bind ?_ fun r v _ => ?_
    · rw [← first w, attempt]
      split <;> next run => rw [run]
    · cases r with
      | ok a => exact ok a v
      | error e => exact error e trivial v

theorem Guarded.savepoints_eq {x : Work α} (h : Guarded (fun _ => True) x) (w : Workspace) :
    (x w).2.database.savepoints = w.database.savepoints := by
  have looked {γ : Type} {y : Work γ} {find : Workspace → Except Error γ} (h : y.Looks find)
      (w : Workspace) : (y w).2.database.savepoints = w.database.savepoints := by
    rw [h w]
    split <;> rfl
  induction h generalizing w with
  | looks h => exact looked h w
  | composed h => exact h.savepoints_eq w
  | looks_bind h _ next => exact savepoints_bind (looked h w) fun a v _ => next a v
  | bind _ next first => exact savepoints_bind (first w) fun a v _ => (next a).savepoints_eq v

end Work

/-! ## Errors -/

/-- A cell that does not fit its field is an error of the database, not of an argument. -/
theorem MappedField.isValidation_readColumn {f : MappedField} {st : TextStore} {r : Record}
    {v : Value} {e : Error} (h : (f.readColumn st r v).result = .error e) :
    e.isValidation = false := by
  unfold readColumn at h
  dsimp only at h
  split at h
  · cases h
    rfl
  · split at h
    · cases h
      rfl
    · split at h <;> cases h
      rfl

theorem MappedField.isValidation_readRow {f : MappedField} {st : TextStore} {r : Record}
    {row : Row} {e : Error} (h : (f.readRow st r row).result = .error e) :
    e.isValidation = false := by
  unfold readRow at h
  split at h
  · cases h
  · next v _ =>
    dsimp only at h
    cases read : (f.readColumn st r v).result with
    | ok u =>
      rw [read] at h
      cases h
    | error e' =>
      rw [read] at h
      cases h
      exact isValidation_readColumn read

namespace Mapping

variable {m : Mapping} {e : Error}

theorem isValidation_check {r : Record} (h : m.check r = .error e) : e.isValidation = false := by
  unfold check at h
  split at h <;> cases h
  rfl

theorem isValidation_requireIdentity (h : m.requireIdentity = .error e) :
    e.isValidation = false := by
  unfold requireIdentity at h
  split at h <;> cases h
  rfl

theorem isValidation_persistedId {st : TextStore} {r : Record}
    (h : m.persistedId st r = .error e) : e.isValidation = false := by
  unfold persistedId at h
  rcases Except.error_of_bind h with refused | ⟨_, -, h⟩
  · exact isValidation_check refused
  rcases Except.error_of_bind h with missing | ⟨identity, -, h⟩
  · exact isValidation_requireIdentity missing
  split at h <;> cases h
  rfl

theorem isValidation_selectById {o : BuildOptions} {id : Int64} {fields : Option (List Nat)}
    (h : m.selectById o id fields = .error e) : e.isValidation = false := by
  unfold selectById at h
  rcases Except.error_of_bind h with missing | ⟨identity, -, h⟩
  · exact isValidation_requireIdentity missing
  · cases h

theorem isValidation_setIdentity {st : TextStore} {r : Record} {id : Int64}
    (h : (m.setIdentity st r id).result = .error e) : e.isValidation = false := by
  unfold setIdentity at h
  split at h
  · next refused =>
    cases h
    exact isValidation_check refused
  · next missing _ =>
    cases h
    exact isValidation_requireIdentity missing
  · exact MappedField.isValidation_readColumn h

theorem isValidation_readFields {row : Row} {fs : List MappedField} {copied : Nat} {r : Record}
    {st : TextStore} (h : (readFields row copied r st fs).result = .error e) :
    e.isValidation = false := by
  induction fs generalizing copied r st with
  | nil => cases h
  | cons f fs ih =>
    unfold readFields at h
    dsimp only at h
    split at h
    · next failed =>
      cases h
      exact MappedField.isValidation_readRow failed
    · exact ih h

theorem isValidation_readRow {st : TextStore} {r : Record} {row : Row}
    (h : (m.readRow st r row).result = .error e) : e.isValidation = false := by
  unfold readRow at h
  split at h
  · next refused =>
    cases h
    exact isValidation_check refused
  · exact isValidation_readFields h

end Mapping

/-! ## Connections and transactions -/

namespace Session

variable {α : Type} {fails : Error → Prop} (usual : ∀ e, e.isValidation = false → fails e)

theorem quiet_release (c : Nat) : Quiet fails (release c) :=
  .modify fun _ => by constructor <;> rfl

theorem quiet_discard (c : Nat) : Quiet fails (discard c) :=
  .modify fun _ => by constructor <;> rfl

theorem quiet_takeConnection : Quiet fails takeConnection :=
  .bind .read fun _ => .bind (.setSession _) fun _ => .pure _

theorem composed_recover : Composed fails recover := by
  refine .bind .read fun w => ?_
  dsimp only
  split
  · exact .pure _
  · refine .bind (.quiet (.setSession _)) fun _ => ?_
    refine .bind (.quiet quiet_takeConnection) fun connection => ?_
    split
    · exact .pure _
    · refine .bind (.quiet (.warn _ _)) fun _ => .attempt_bind (.runBatch _ _ _) ?_ ?_
      · intro _
        exact .bind (.quiet (quiet_release _)) fun _ => .pure _
      · intro e _
        exact .bind (.quiet (.warn _ _)) fun _ => .bind (.quiet (quiet_discard _)) fun _ => .pure _

include usual

theorem composed_acquire : Composed fails acquire := by
  refine .quiet fun w => ?_
  unfold acquire Server.acquire
  simp only [Work.bind_apply, Work.read]
  cases w.database.server.refusal with
  | some message =>
    refine ⟨.error (.connection message), w, rfl, .refl w, ?_⟩
    rintro _ ⟨⟩
    exact usual _ rfl
  | none =>
    refine ⟨.ok (w.database.server.acquired + 1), _, rfl, by constructor <;> rfl, ?_⟩
    rintro _ ⟨⟩

theorem composed_onConnection {operation : Nat → Work α}
    (each : ∀ c, Composed fails (operation c)) : Composed fails (onConnection operation) := by
  refine .bind composed_recover fun _ => .bind .read fun w => ?_
  split
  · exact each _
  · refine .bind (composed_acquire usual) fun c => .attempt_bind (each c) ?_ ?_
    · intro a
      exact .bind (.quiet (quiet_release c)) fun _ => .pure a
    · intro e known
      exact .bind (.quiet (quiet_release c)) fun _ => .fail known

theorem composed_start (o : Sql.TransactionOptions) : Composed fails (start o) := by
  refine .bind composed_recover fun _ => .bind .read fun w => ?_
  split
  -- what follows the check is the same whether it has stopped the work or not
  case' isTrue => refine .bind (.fail (usual _ rfl)) fun _ => ?_
  all_goals
    refine .bind (composed_acquire usual) fun c => .bind .config fun _ => ?_
    refine .attempt_bind (.runBatch _ _ _) ?_ ?_
    · intro _
      exact .bind .read fun _ => .quiet (.setSession _)
    · intro e known
      exact .bind (.quiet (quiet_release c)) fun _ => .fail known

theorem composed_finish (sql : String) : Composed fails (finish sql) := by
  refine .bind composed_recover fun recovered => ?_
  split
  · exact .pure _
  · refine .bind (.quiet quiet_takeConnection) fun connection => ?_
    split
    · exact .fail (usual _ rfl)
    · refine .attempt_bind (.runBatch _ _ _) ?_ ?_
      · intro a
        exact .bind (.quiet (quiet_release _)) fun _ => .pure a
      · intro e known
        exact .bind (.quiet (quiet_release _)) fun _ => .fail known

theorem composed_settle {outcome : Except Error α} (known : ∀ e, outcome = .error e → fails e) :
    Composed fails (settle outcome) := by
  refine .bind .read fun w => ?_
  dsimp only
  split
  · split
    · exact .bind (composed_finish usual _) fun _ => .pure _
    · exact .pure _
  · next e =>
    have stop {β : Type} : Composed fails (fail e : Work β) := .fail (known e rfl)
    split
    · refine .attempt_bind (composed_finish usual _) ?_ ?_
      · intro _
        exact .bind stop fun _ => stop
      · intro e' _
        exact .bind (.quiet (.warn _ _)) fun _ => stop
    · exact stop

theorem guarded_savepointCommand (command name : String) :
    Guarded fails (savepointCommand command name) := by
  unfold savepointCommand
  split
  case' isTrue => refine .looks_bind (looks_ofExcept (.error _)) fun _ => ?_
  all_goals
    refine .composed (.bind composed_recover fun _ => .bind .read fun w => ?_)
    split
    · exact .fail (usual _ rfl)
    · exact .runBatch _ _ _

/-! ## Reading and writing -/

omit usual in
theorem composed_texts : Composed fails texts := .bind .read fun _ => .pure _

omit usual in
theorem composed_putRecord (name : String) (r : Record) : Composed fails (putRecord name r) :=
  .quiet (.modify fun _ => .of_database rfl)

theorem composed_record (name : String) : Composed fails (record name) := by
  refine .quiet ((looks_record name).quiet fun w e missing => usual e ?_)
  unfold Workspace.find at missing
  split at missing <;> cases missing
  rfl

theorem composed_change {name : String} {f : TextStore → Record → Change α}
    (known : ∀ st r e, (f st r).result = .error e → fails e) :
    Composed fails (change name f) := by
  refine .bind composed_texts fun st => .bind (composed_record usual name) fun r => ?_
  refine .bind (composed_putRecord name _) fun _ => ?_
  exact .bind (.quiet (.modify fun _ => .of_database rfl)) fun _ => .ofExcept (known st r)

theorem composed_recordOfRow (m : Mapping) (row : Row) : Composed fails (recordOfRow m row) := by
  refine .bind composed_texts fun st => ?_
  refine .bind (.quiet (.modify fun _ => .of_database rfl)) fun _ => ?_
  refine .bind (.ofExcept fun e failed => usual e ?_) fun _ => .pure _
  exact Mapping.isValidation_readRow failed

theorem composed_expectOne (affected : Nat) (sql : String) :
    Composed fails (expectOne affected sql) := by
  unfold expectOne
  split
  · exact .pure _
  · exact .fail (usual _ rfl)

theorem composed_singleRow (m : Mapping) (id : Int64) (rows : List Row) :
    Composed fails (singleRow m id rows) := by
  unfold singleRow
  split
  · refine .bind (.ofExcept fun e missing => usual e ?_) fun _ => .fail (usual _ rfl)
    exact Mapping.isValidation_requireIdentity missing
  · exact .pure _
  · exact .fail (usual _ rfl)

theorem composed_scalar (what : String) (rows : List Row) : Composed fails (scalar what rows) := by
  unfold scalar
  split
  · exact .fail (usual _ rfl)
  · split
    · exact .fail (usual _ rfl)
    · split
      · exact .pure _
      · exact .fail (usual _ rfl)

theorem composed_readRow (m : Mapping) (name : String) (row : Row) :
    Composed fails (change name fun st r => m.readRow st r row) :=
  composed_change usual fun _ _ e failed => usual e (Mapping.isValidation_readRow failed)

theorem composed_readBack (c : Nat) (m : Mapping) (name : String) (id : Int64)
    (fields : List Nat) (tag : String) : Composed fails (readBack c m name id fields tag) := by
  unfold readBack
  split
  · exact .pure _
  · refine .bind .options fun o => ?_
    refine .bind (.ofExcept fun e missing => usual e ?_) fun q => ?_
    · exact Mapping.isValidation_selectById missing
    · refine .bind (.runQuery _ _ _ _) fun rows => ?_
      refine .bind (composed_singleRow usual m id rows) fun row => ?_
      exact .bind (composed_readRow usual m name row) fun _ => .pure _

theorem composed_insertedId (c : Nat) (m : Mapping) (name tag : String) :
    Composed fails (insertedId c m name tag) := by
  refine .bind composed_texts fun _ => .bind (composed_record usual name) fun _ => ?_
  refine .bind (.ofExcept fun e wrong => usual e ?_) fun known => ?_
  · exact Mapping.isValidation_persistedId wrong
  · split
    · exact .pure _
    · refine .bind .config fun _ => .bind (.runQuery _ _ _ _) fun rows => ?_
      refine .bind (composed_scalar usual _ rows) fun id => ?_
      refine .bind (composed_change usual fun _ _ e wrong => usual e ?_) fun _ => .pure _
      exact Mapping.isValidation_setIdentity wrong

theorem guarded_ask (q : Query) (sql : String) : Guarded fails (ask q sql) :=
  .looks_bind (looks_ofExcept _) fun _ =>
    .composed (composed_onConnection usual fun _ => .runQuery _ _ _ _)

theorem guarded_query (t : RecordType) (q : Query) : Guarded fails (query t q) :=
  .looks_bind (looks_mappingOf t) fun m =>
    .bind (guarded_ask usual q _) fun rows => .mapM (composed_recordOfRow usual m) rows

theorem guarded_queryOptional (t : RecordType) (q : Query) :
    Guarded fails (queryOptional t q) := by
  refine .looks_bind (looks_mappingOf t) fun m => .bind (guarded_ask usual q _) fun rows => ?_
  split
  · exact .pure _
  · exact .bind (composed_recordOfRow usual m _) fun _ => .pure _
  · exact .fail (usual _ rfl)

theorem guarded_queryOne (t : RecordType) (q : Query) : Guarded fails (queryOne t q) := by
  refine .bind (guarded_queryOptional usual t q) fun found => ?_
  split
  · exact .pure _
  · exact .fail (usual _ rfl)

theorem guarded_count (q : Query) : Guarded fails (count q) :=
  .bind (guarded_ask usual q _) fun rows => composed_scalar usual _ rows

theorem guarded_load (t : RecordType) (id : Int64) : Guarded fails (load t id) := by
  refine .looks_bind (looks_mappingOf t) fun m => .looks_bind looks_options fun o => ?_
  refine .looks_bind (looks_ofExcept _) fun q => .bind (guarded_ask usual q _) fun rows => ?_
  exact .bind (composed_singleRow usual m id rows) fun row => composed_recordOfRow usual m row

theorem guarded_execute (q : Query) : Guarded fails (execute q) :=
  .looks_bind (looks_ofExcept _) fun _ =>
    .composed (composed_onConnection usual fun _ => .runExecute _ _ _ _)

theorem guarded_createTable (t : RecordType) : Guarded fails (createTable t) :=
  .looks_bind (looks_mappingOf t) fun _ =>
    .composed (composed_onConnection usual fun _ => .runBatch _ _ _)

theorem guarded_insert (name : String) : Guarded fails (insert name) := by
  refine .looks_bind (looks_record name) fun r => .looks_bind (looks_mappingOf _) fun m => ?_
  refine .looks_bind looks_options fun o => .looks_bind looks_texts fun st => ?_
  refine .looks_bind (looks_ofExcept _) fun p => .composed (composed_onConnection usual fun c => ?_)
  refine .bind (.runExecute _ _ _ _) fun affected => ?_
  refine .bind (composed_expectOne usual _ _) fun _ => ?_
  split
  · exact .pure _
  · refine .bind (composed_insertedId usual c m name _) fun id => ?_
    exact composed_readBack usual c m name id _ _

theorem guarded_updateWith (m : Mapping) (name : String) (fields : List MappedField) :
    Guarded fails (updateWith m name fields) := by
  refine .looks_bind (looks_record name) fun r => .looks_bind looks_options fun o => ?_
  refine .looks_bind looks_texts fun st => .looks_bind (looks_ofExcept _) fun p => ?_
  refine .looks_bind looks_texts fun _ => .looks_bind (looks_ofExcept _) fun stored => ?_
  refine .composed (composed_onConnection usual fun c => ?_)
  refine .bind (.runExecute _ _ _ _) fun affected => ?_
  exact .bind (composed_expectOne usual _ _) fun _ => composed_readBack usual c m name _ _ _

theorem guarded_update (name : String) : Guarded fails (update name) :=
  .looks_bind (looks_record name) fun _ => .looks_bind (looks_mappingOf _) fun m =>
    guarded_updateWith usual m name _

theorem guarded_updateFields (name : String) (names : List String) :
    Guarded fails (updateFields name names) :=
  .looks_bind (looks_record name) fun _ => .looks_bind (looks_mappingOf _) fun m =>
    .looks_bind (looks_ofExcept _) fun fields => guarded_updateWith usual m name fields

theorem guarded_store (name : String) : Guarded fails (store name) := by
  refine .looks_bind (looks_record name) fun r => .looks_bind (looks_mappingOf _) fun m => ?_
  refine .looks_bind looks_texts fun _ => .looks_bind (looks_ofExcept _) fun persisted => ?_
  split
  · exact guarded_update usual name
  · exact guarded_insert usual name

theorem guarded_delete (name : String) : Guarded fails (delete name) := by
  refine .looks_bind (looks_record name) fun r => .looks_bind (looks_mappingOf _) fun m => ?_
  refine .looks_bind looks_options fun o => .looks_bind looks_texts fun st => ?_
  refine .looks_bind (looks_ofExcept _) fun p => .composed ?_
  refine .bind (composed_onConnection usual fun _ => .runExecute _ _ _ _) fun affected => ?_
  exact composed_expectOne usual affected p.sql

theorem guarded_refresh (name : String) : Guarded fails (refresh name) := by
  refine .looks_bind (looks_record name) fun r => .looks_bind (looks_mappingOf _) fun m => ?_
  refine .looks_bind looks_texts fun _ => .looks_bind (looks_ofExcept _) fun stored => ?_
  refine .looks_bind looks_options fun o => .looks_bind (looks_ofExcept _) fun q => ?_
  refine .bind (guarded_ask usual q _) fun rows => ?_
  refine .bind (composed_singleRow usual m _ rows) fun row => ?_
  exact .bind (composed_readRow usual m name row) fun _ => .pure _

end Session

/-! ## Single operations -/

namespace Action

/-- The operation has to do with the database. The others let time pass, tell the server or a
monitor what to do, or end the session. -/
def operates : Action → Bool
  | sleep _ | script _ | latency _ | refuse _ | resetStats | newSession => false
  | _ => true

variable {fails : Error → Prop}

theorem composed_valuesOf (r : Record) : Composed fails (valuesOf r) :=
  .bind Session.composed_texts fun _ => .pure _

/-- Operations look at what they are given before they have anything to do with a connection. -/
theorem guarded (usual : ∀ e, e.isValidation = false → fails e) {a : Action}
    (operates : a.operates = true) : Guarded fails a.perform := by
  have built {α : Type} {q : QueryPlan} {f : Query → Work α}
      (next : ∀ q, Guarded fails (f q)) : Guarded fails (built q >>= f) :=
    .looks_bind (looks_built q) next
  have silent {x : Work Unit} (h : Guarded fails x) :
      Guarded fails (x >>= fun _ => pure Answer.nothing) :=
    .bind h fun _ => .pure _
  cases a with
  | queryRows q => exact built fun q => .bind (Session.guarded_ask usual q _) fun _ => .pure _
  | query t q =>
    refine built fun q => .bind (Session.guarded_query usual t q) fun rs => ?_
    exact .bind (.mapM composed_valuesOf rs) fun _ => .pure _
  | queryOne t q =>
    refine built fun q => .bind (Session.guarded_queryOne usual t q) fun r => ?_
    exact .bind (composed_valuesOf r) fun _ => .pure _
  | queryOptional t q =>
    refine built fun q => .bind (Session.guarded_queryOptional usual t q) fun r => ?_
    exact .bind (.mapM composed_valuesOf r.toList) fun _ => .pure _
  | count q => exact built fun q => .bind (Session.guarded_count usual q) fun _ => .pure _
  | load t id name =>
    refine .bind (Session.guarded_load usual t id) fun r => ?_
    cases name with
    | none => exact .bind (composed_valuesOf r) fun _ => .pure _
    | some name =>
      refine .bind (Session.composed_putRecord name r) fun _ => ?_
      exact .bind (composed_valuesOf r) fun _ => .pure _
  | execute q => exact built fun q => .bind (Session.guarded_execute usual q) fun _ => .pure _
  | executeSql sql parameters =>
    refine .bind (.composed ?_) fun _ => .pure _
    exact Session.composed_onConnection usual fun _ => .runExecute _ _ _ _
  | batch sql =>
    exact silent (.composed (Session.composed_onConnection usual fun _ => .runBatch _ _ _))
  | createTable t => exact silent (Session.guarded_createTable usual t)
  | store name => exact silent (Session.guarded_store usual name)
  | insert name => exact silent (Session.guarded_insert usual name)
  | update name => exact silent (Session.guarded_update usual name)
  | delete name => exact silent (Session.guarded_delete usual name)
  | refresh name => exact silent (Session.guarded_refresh usual name)
  | updateFields name names => exact silent (Session.guarded_updateFields usual name names)
  | set name index value =>
    refine silent (.composed (Session.composed_change usual fun st r e wrong => usual e ?_))
    split at wrong <;> cases wrong
    rfl
  | new name t =>
    refine .composed (.bind Session.composed_texts fun st => ?_)
    refine .bind (.quiet (.modify fun _ => .of_database rfl)) fun _ => ?_
    exact .bind (Session.composed_putRecord name _) fun _ => .pure _
  | display name => exact .composed (.pure _)
  | begin o => exact silent (.composed (Session.composed_start usual o))
  | commit => exact silent (.composed (Session.composed_finish usual _))
  | rollback => exact silent (.composed (Session.composed_finish usual _))
  | savepoint name => exact silent (Session.guarded_savepointCommand usual _ name)
  | rollbackTo name => exact silent (Session.guarded_savepointCommand usual _ name)
  | release name => exact silent (Session.guarded_savepointCommand usual _ name)
  | fail e => exact .looks (looks_ofExcept (.error e))
  | stats => exact .composed (.bind .read fun _ => .pure _)
  | sleep | script | latency | refuse | resetStats | newSession => cases operates

end Action

end DataMapper
