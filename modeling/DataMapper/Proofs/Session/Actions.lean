import DataMapper.Proofs.Results
import DataMapper.Proofs.Session.Effects

/-!
# The effects of single operations

Every operation of a session is a sequence of effects. The statements that it sends on its own
account have nothing to do with transactions; what raw text does is in the hands of the caller.

## Main definitions

* `IsControl`, `IsData` — text that begins or ends a transaction, and text that deals with data.
* `Course.Bears`, `Course.Carries` — a course that what operations are made of keeps to.
* `Action.rawText?`, `Action.text?` — the raw text that an operation sends, if it sends any, or the
  text about the savepoint that it names.
-/

namespace DataMapper

open Work

/-! ## Texts -/

/-- The text begins or ends a transaction. -/
def IsControl (sql : String) : Prop :=
  IsBegin sql ∨ sql = Session.commitText ∨ sql = Session.rollbackText

/-- How statements begin that deal with data. -/
def dataLeads : List String :=
  ["SELECT ", "UPDATE ", "DELETE FROM ", "INSERT INTO ", "CREATE TABLE "]

/-- How statements begin that have nothing to do with transactions. -/
def plainLeads : List String :=
  dataLeads ++ ["SAVEPOINT ", "ROLLBACK TO SAVEPOINT ", "RELEASE SAVEPOINT "]

/-- The text deals with data. -/
def IsData (sql : String) : Prop := ∃ lead ∈ dataLeads, lead.toList <+: sql.toList

theorem lead_append {lead a : String} (h : lead.toList <+: a.toList) (b : String) :
    lead.toList <+: (a ++ b).toList := by
  rw [String.toList_append]
  exact h.trans (List.prefix_append _ _)

theorem IsBegin.lead {sql : String} (h : IsBegin sql) :
    "BEGIN".toList <+: sql.toList ∨ "SET TRANSACTION".toList <+: sql.toList := by
  obtain ⟨o, d, rfl⟩ := h
  cases d with
  | postgres => exact .inl (lead_append (lead_append (by decide) _) _)
  | mysql => exact .inr (lead_append (lead_append (lead_append (by decide) _) _) _)
  | sqlite => exact .inl (List.prefix_refl _)

theorem not_isControl_of_lead (lead : String) {sql : String} (h : lead ∈ plainLeads)
    (begins : lead.toList <+: sql.toList) : ¬ IsControl sql := by
  have apart : ∀ lead ∈ plainLeads, ∀ control ∈ ["BEGIN", "SET TRANSACTION"],
      ¬ lead.toList <+: control.toList ∧ ¬ control.toList <+: lead.toList := by decide
  have longer : ∀ lead ∈ plainLeads, ¬ lead.toList <+: Session.commitText.toList ∧
      ¬ lead.toList <+: Session.rollbackText.toList := by decide
  rintro (control | rfl | rfl)
  · rcases control.lead with control | control
    · obtain ⟨first, second⟩ := apart lead h "BEGIN" (by decide)
      exact (List.prefix_or_prefix_of_prefix begins control).elim first second
    · obtain ⟨first, second⟩ := apart lead h "SET TRANSACTION" (by decide)
      exact (List.prefix_or_prefix_of_prefix begins control).elim first second
  · exact (longer lead h).1 begins
  · exact (longer lead h).2 begins

theorem IsData.not_isControl {sql : String} (h : IsData sql) : ¬ IsControl sql := by
  obtain ⟨lead, data, begins⟩ := h
  exact not_isControl_of_lead lead (List.mem_append_left _ data) begins

namespace Query

theorem isData_text (q : Query) : IsData q.text := by
  unfold text fragment
  split
  · refine ⟨"SELECT ", by decide, ?_⟩
    simp only [String.toList_ofList, Fragment.text_append, Fragment.text_ofString,
      List.append_assoc]
    exact List.prefix_append _ _
  · refine ⟨"UPDATE ", by decide, ?_⟩
    simp only [String.toList_ofList, Fragment.text_append, Fragment.text_ofString,
      List.append_assoc]
    exact List.prefix_append _ _
  · refine ⟨"DELETE FROM ", by decide, ?_⟩
    simp only [String.toList_ofList, Fragment.text_append, Fragment.text_ofString]
    exact List.prefix_append _ _

theorem isData_countText (q : Query) : IsData q.countText := by
  have lead : "SELECT ".toList <+: "SELECT COUNT(*) FROM ".toList := by decide
  have text : q.countText.toList = "SELECT COUNT(*) FROM ".toList ++ q.source.text := by
    rw [countText, String.toList_ofList]
    rfl
  refine ⟨"SELECT ", by decide, ?_⟩
  rw [text]
  exact lead.trans (List.prefix_append _ _)

end Query

theorem isData_lastIdentity (d : Sql.Dialect) : IsData d.lastIdentity :=
  ⟨"SELECT ", by decide, by cases d <;> decide⟩

theorem not_isControl_savepoint {command name : String}
    (h : command ∈ [Session.setSavepoint, Session.rollbackToSavepoint, Session.releaseSavepoint]) :
    ¬ IsControl (command ++ " " ++ name) := by
  have lead : command ++ " " ∈ plainLeads := by
    simp only [List.mem_cons, List.not_mem_nil, or_false] at h
    rcases h with rfl | rfl | rfl <;> decide
  exact not_isControl_of_lead _ lead (lead_append (List.prefix_refl _) name)

namespace Mapping

variable {m : Mapping} {o : BuildOptions} {st : TextStore} {r : Record} {p : PreparedStatement}

theorem isData_insert (h : m.insertStatement o st r = .ok p) : IsData p.sql := by
  unfold insertStatement at h
  obtain ⟨bound, -, built⟩ := Except.exists_of_bind h
  cases built
  refine ⟨"INSERT INTO ", by decide, ?_⟩
  dsimp only
  split
  · cases o.dialect <;> exact lead_append (lead_append (List.prefix_refl _) _) _
  · exact lead_append (lead_append (lead_append (lead_append (lead_append (lead_append
      (List.prefix_refl _) _) _) _) _) _) _

theorem isData_prepared {q : Query} {stamped : List Nat}
    (h : preparedQuery q stamped = .ok p) : IsData p.sql := by
  obtain ⟨_, -, built⟩ := Except.exists_of_bind h
  cases built
  exact q.isData_text

theorem isData_update {fields : List MappedField}
    (h : m.updateStatement o st r fields = .ok p) : IsData p.sql := by
  unfold updateStatement at h
  obtain ⟨_, -, h⟩ := Except.exists_of_bind h
  obtain ⟨_, -, h⟩ := Except.exists_of_bind h
  dsimp only at h
  split at h
  · cases h
  · exact isData_prepared h

/-- A table is created by its schema, or by a statement that is derived from the fields. -/
theorem createText_eq_or {t : RecordType} (h : ofType t = .ok m) :
    t.schema = some m.createText ∨ IsData m.createText := by
  have type : m.type = t := by
    unfold ofType at h
    grind
  subst type
  unfold createText
  cases m.type.schema with
  | some text => exact .inl rfl
  | none =>
    refine .inr ⟨"CREATE TABLE ", by decide, ?_⟩
    exact lead_append (lead_append (lead_append (lead_append (List.prefix_refl _) _) _) _) _

theorem isData_delete (h : m.deleteStatement o st r = .ok p) : IsData p.sql := by
  unfold deleteStatement at h
  obtain ⟨_, -, h⟩ := Except.exists_of_bind h
  exact isData_prepared h

end Mapping

/-! ## What operations are made of -/

/-- Statements keep to the course, on whatever connection they are sent; those that deal with data
may be sent. -/
structure Course.Bears (C : Course) (ok : String → Prop) : Prop where
  data : ∀ sql, IsData sql → ok sql
  onConnection : ∀ {α : Type} {operation : Nat → Work α},
    (∀ c, Does (sending c ok) (operation c)) → Does C (Session.onConnection operation)
  savepointCommand : ∀ {command name}, ok (command ++ " " ++ name) →
    Does C (Session.savepointCommand command name)

/-- What operations are made of keeps to the course. -/
structure Course.Carries (C : Course) (ok : String → Prop) : Prop extends C.Bears ok where
  start : ∀ o, Does C (Session.start o)
  finish : ∀ {sql}, sql = Session.commitText ∨ sql = Session.rollbackText →
    Does C (Session.finish sql)
  leave : Does C (Session.leave true)

theorem operating_carries {ok : String → Prop} (data : ∀ sql, IsData sql → ok sql) :
    (operating ok).Carries ok where
  data
  onConnection := Session.does_onConnection
  start := Session.does_start
  finish := Session.does_finish
  savepointCommand := Session.does_savepointCommand
  leave := Session.does_leave true

/-! ## Work without statements -/

namespace Session

section

variable {α : Type} {C : Course}

theorem does_texts : Does C texts := Does.read fun _ => .pure _

theorem does_options : Does C options :=
  .bind (Does.read fun _ => .pure _) fun _ => .pure _

theorem does_mappingOf (t : RecordType) : Does C (mappingOf t) := by
  unfold mappingOf
  split
  · exact .pure _
  · exact .fail _

theorem does_record (name : String) : Does C (record name) := by
  refine Does.read fun w => ?_
  split
  · exact .pure _
  · exact .fail _

theorem does_putRecord (name : String) (r : Record) : Does C (putRecord name r) :=
  .modify (fun _ => rfl) fun _ => rfl

theorem does_change (name : String) (f : TextStore → Record → Change α) :
    Does C (change name f) := by
  refine .bind does_texts fun _ => .bind (does_record name) fun _ => ?_
  refine .bind (does_putRecord name _) fun _ => ?_
  exact .bind (.modify (fun _ => rfl) fun _ => rfl) fun _ => .ofExcept _

theorem does_recordOfRow (m : Mapping) (row : Row) : Does C (recordOfRow m row) := by
  refine .bind does_texts fun _ => ?_
  refine .bind (.modify (fun _ => rfl) fun _ => rfl) fun _ => ?_
  exact .bind (.ofExcept _) fun _ => .pure _

theorem does_expectOne (affected : Nat) (sql : String) : Does C (expectOne affected sql) := by
  unfold expectOne
  split
  · exact .pure _
  · exact .fail _

theorem does_singleRow (m : Mapping) (id : Int64) (rows : List Row) :
    Does C (singleRow m id rows) := by
  unfold singleRow
  split
  · exact .bind (.ofExcept _) fun _ => .fail _
  · exact .pure _
  · exact .fail _

theorem does_scalar (what : String) (rows : List Row) : Does C (scalar what rows) := by
  unfold scalar
  split
  · exact .fail _
  · split
    · exact .fail _
    · split
      · exact .pure _
      · exact .fail _

end

/-! ## Reading and writing -/

section

variable {ok : String → Prop} (data : ∀ sql, IsData sql → ok sql)
include data

theorem does_readBack (c : Nat) (m : Mapping) (name : String) (id : Int64) (fields : List Nat)
    (tag : String) : Does (sending c ok) (readBack c m name id fields tag) := by
  unfold readBack
  split
  · exact .pure _
  · refine .bind does_options fun o => .bind (.ofExcept _) fun q => ?_
    refine .bind (does_run (data _ q.isData_text) _ _ _ _) fun rows => ?_
    refine .bind (does_singleRow m id rows) fun row => ?_
    exact .bind (does_change name _) fun _ => .pure _

theorem does_insertedId (c : Nat) (m : Mapping) (name tag : String) :
    Does (sending c ok) (insertedId c m name tag) := by
  refine .bind does_texts fun _ => .bind (does_record name) fun _ => ?_
  refine .bind (.ofExcept _) fun known => ?_
  split
  · exact .pure _
  · refine .bind (Does.read fun _ => .pure _) fun config => ?_
    refine .bind (does_run (data _ (isData_lastIdentity _)) _ _ _ _) fun rows => ?_
    refine .bind (does_scalar _ rows) fun id => ?_
    exact .bind (does_change name _) fun _ => .pure _

end

variable {C : Course} {ok : String → Prop} (bears : C.Bears ok)
include bears

theorem does_ask (q : Query) {sql : String} (h : IsData sql) :
    Does C (ask q sql) := by
  refine .bind (.ofExcept _) fun _ => ?_
  exact bears.onConnection fun c => does_run (bears.data sql h) _ _ _ _

theorem does_queryRows (q : Query) : Does C (queryRows q) :=
  does_ask bears q q.isData_text

theorem does_query (t : RecordType) (q : Query) : Does C (query t q) := by
  refine .bind (does_mappingOf t) fun m => .bind (does_queryRows bears q) fun rows => ?_
  exact .mapM (does_recordOfRow m) rows

theorem does_queryOptional (t : RecordType) (q : Query) :
    Does C (queryOptional t q) := by
  refine .bind (does_mappingOf t) fun m => .bind (does_queryRows bears q) fun rows => ?_
  split
  · exact .pure _
  · exact .bind (does_recordOfRow m _) fun _ => .pure _
  · exact .fail _

theorem does_queryOne (t : RecordType) (q : Query) : Does C (queryOne t q) := by
  refine .bind (does_queryOptional bears t q) fun found => ?_
  split
  · exact .pure _
  · exact .fail _

theorem does_count (q : Query) : Does C (count q) := by
  exact .bind (does_ask bears q q.isData_countText) fun rows => does_scalar _ rows

theorem does_load (t : RecordType) (id : Int64) : Does C (load t id) := by
  refine .bind (does_mappingOf t) fun m => .bind does_options fun o => ?_
  refine .bind (.ofExcept _) fun q => .bind (does_queryRows bears q) fun rows => ?_
  exact .bind (does_singleRow m id rows) fun row => does_recordOfRow m row

theorem does_execute (q : Query) : Does C (execute q) := by
  refine .bind (.ofExcept _) fun _ => ?_
  exact bears.onConnection fun c => does_run (bears.data _ q.isData_text) _ _ _ _

theorem does_insert (name : String) : Does C (insert name) := by
  refine .bind (does_record name) fun r => .bind (does_mappingOf r.type) fun m => ?_
  refine .bind does_options fun o => .bind does_texts fun st => ?_
  refine .ofExcept_bind fun p prepared => bears.onConnection fun c => ?_
  have text := bears.data _ (Mapping.isData_insert prepared)
  refine .bind (does_run text _ _ _ _) fun affected => ?_
  refine .bind (does_expectOne _ _) fun _ => ?_
  split
  · exact .pure _
  · refine .bind (does_insertedId bears.data c m name _) fun id => ?_
    exact does_readBack bears.data c m name id _ _

theorem does_updateWith (m : Mapping) (name : String) (fields : List MappedField) :
    Does C (updateWith m name fields) := by
  refine .bind (does_record name) fun r => .bind does_options fun o => ?_
  refine .bind does_texts fun st => .ofExcept_bind fun p prepared => ?_
  refine .bind does_texts fun _ => .bind (.ofExcept _) fun stored => ?_
  refine bears.onConnection fun c => ?_
  have text := bears.data _ (Mapping.isData_update prepared)
  refine .bind (does_run text _ _ _ _) fun affected => ?_
  refine .bind (does_expectOne _ _) fun _ => ?_
  exact does_readBack bears.data c m name _ _ _

theorem does_update (name : String) : Does C (update name) := by
  refine .bind (does_record name) fun r => .bind (does_mappingOf r.type) fun m => ?_
  exact does_updateWith bears m name _

theorem does_updateFields (name : String) (names : List String) :
    Does C (updateFields name names) := by
  refine .bind (does_record name) fun r => .bind (does_mappingOf r.type) fun m => ?_
  exact .bind (.ofExcept _) fun fields => does_updateWith bears m name fields

theorem does_store (name : String) : Does C (store name) := by
  refine .bind (does_record name) fun r => .bind (does_mappingOf r.type) fun m => ?_
  refine .bind does_texts fun _ => .bind (.ofExcept _) fun persisted => ?_
  split
  · exact does_update bears name
  · exact does_insert bears name

theorem does_delete (name : String) : Does C (delete name) := by
  refine .bind (does_record name) fun r => .bind (does_mappingOf r.type) fun m => ?_
  refine .bind does_options fun o => .bind does_texts fun st => ?_
  refine .ofExcept_bind fun p prepared => ?_
  have text := bears.data _ (Mapping.isData_delete prepared)
  refine .bind (bears.onConnection fun c => does_run text _ _ _ _) fun affected => ?_
  exact does_expectOne affected p.sql

theorem does_refresh (name : String) : Does C (refresh name) := by
  refine .bind (does_record name) fun r => .bind (does_mappingOf r.type) fun m => ?_
  refine .bind does_texts fun _ => .bind (.ofExcept _) fun stored => ?_
  refine .bind does_options fun o => .bind (.ofExcept _) fun q => ?_
  refine .bind (does_queryRows bears q) fun rows => ?_
  refine .bind (does_singleRow m _ rows) fun row => ?_
  exact .bind (does_change name _) fun _ => .pure _

end Session

/-! ## Single operations -/

namespace Action

/-- The raw text that the operation sends, if it sends any; the schema of a table is raw text. -/
def rawText? : Action → Option String
  | executeSql sql _ => some sql
  | batch sql => some sql
  | createTable t => t.schema
  | _ => none

/-- The text that the operation is given to send: raw text, or the name of a savepoint. -/
def text? : Action → Option String
  | savepoint name => some (Session.setSavepoint ++ " " ++ name)
  | rollbackTo name => some (Session.rollbackToSavepoint ++ " " ++ name)
  | release name => some (Session.releaseSavepoint ++ " " ++ name)
  | a => a.rawText?

/-- Text that the operation may send: nothing about transactions, except where raw text says so. -/
def MaySend (a : Action) (sql : String) : Prop := ¬ IsControl sql ∨ a.rawText? = some sql

theorem maySend_of_text? {a : Action} {sql : String} (h : a.text? = some sql) : a.MaySend sql := by
  unfold text? at h
  split at h
  · cases h
    exact .inl (not_isControl_savepoint (by simp))
  · cases h
    exact .inl (not_isControl_savepoint (by simp))
  · cases h
    exact .inl (not_isControl_savepoint (by simp))
  · exact .inr h

section

variable {C : Course}

theorem does_built (q : QueryPlan) : Does C (built q) :=
  .bind Session.does_options fun _ => .ofExcept _

theorem does_valuesOf (r : Record) : Does C (valuesOf r) :=
  .bind Session.does_texts fun _ => .pure _

end

/-- The operation neither opens a transaction nor ends one, nor does the session end with it. -/
def isOrdinary : Action → Bool
  | begin _ | commit | rollback | newSession => false
  | _ => true

theorem does_of_bears {C : Course} {ok : String → Prop} {a : Action}
    (ordinary : a.isOrdinary = true) (bears : C.Bears ok)
    (own : ∀ sql, a.text? = some sql → ok sql) : Does C a.perform := by
  have built (q : QueryPlan) : Does C (built q) := does_built q
  have silent {x : Work Unit} (hx : Does C x) :
      Does C (x >>= fun _ => pure Answer.nothing) :=
    .bind hx fun _ => .pure _
  cases a with
  | queryRows q =>
    exact .bind (built q) fun q => .bind (Session.does_queryRows bears q) fun _ => .pure _
  | query t q =>
    refine .bind (built q) fun q => .bind (Session.does_query bears t q) fun rs => ?_
    exact .bind (.mapM does_valuesOf rs) fun _ => .pure _
  | queryOne t q =>
    refine .bind (built q) fun q => .bind (Session.does_queryOne bears t q) fun r => ?_
    exact .bind (does_valuesOf r) fun _ => .pure _
  | queryOptional t q =>
    refine .bind (built q) fun q => .bind (Session.does_queryOptional bears t q) fun r => ?_
    exact .bind (.mapM does_valuesOf r.toList) fun _ => .pure _
  | count q =>
    exact .bind (built q) fun q => .bind (Session.does_count bears q) fun _ => .pure _
  | load t id name =>
    refine .bind (Session.does_load bears t id) fun r => ?_
    cases name with
    | none => exact .bind (does_valuesOf r) fun _ => .pure _
    | some name =>
      refine .bind (Session.does_putRecord name r) fun _ => ?_
      exact .bind (does_valuesOf r) fun _ => .pure _
  | execute q =>
    exact .bind (built q) fun q => .bind (Session.does_execute bears q) fun _ => .pure _
  | executeSql sql parameters =>
    refine .bind (bears.onConnection fun c => ?_) fun _ => .pure _
    exact does_run (own _ rfl) _ _ _ _
  | batch sql =>
    refine silent (bears.onConnection fun c => ?_)
    exact does_run (own _ rfl) _ _ _ _
  | createTable t =>
    refine silent ?_
    unfold Session.createTable Session.mappingOf
    cases mapped : Mapping.ofType t with
    | error fault => exact .fail (.mapping fault)
    | ok m =>
      have text : ok m.createText :=
        (Mapping.createText_eq_or mapped).elim (own m.createText) (bears.data _)
      have created : Does C (Session.onConnection fun c =>
          runBatch c m.createText (some (m.typeName ++ ".create_table"))) :=
        bears.onConnection fun c => does_run text _ _ _ _
      exact created
  | store name => exact silent (Session.does_store bears name)
  | insert name => exact silent (Session.does_insert bears name)
  | update name => exact silent (Session.does_update bears name)
  | delete name => exact silent (Session.does_delete bears name)
  | refresh name => exact silent (Session.does_refresh bears name)
  | updateFields name fields => exact silent (Session.does_updateFields bears name fields)
  | set name index value => exact silent (Session.does_change name _)
  | new name t =>
    refine .bind Session.does_texts fun st => ?_
    refine .bind (.modify (fun _ => rfl) fun _ => rfl) fun _ => ?_
    exact silent (Session.does_putRecord name _)
  | display name => exact .pure _
  | begin | commit | rollback | newSession => cases ordinary
  | savepoint name | rollbackTo name | release name =>
    exact silent (bears.savepointCommand (own _ rfl))
  | fail e => exact .fail e
  | sleep nanos => exact silent (.pause nanos)
  | script rules => exact silent (.modify (fun _ => rfl) fun _ => rfl)
  | latency nanos => exact silent (.modify (fun _ => rfl) fun _ => rfl)
  | refuse message => exact silent (.modify (fun _ => rfl) fun _ => rfl)
  | stats => exact Does.read fun _ => .pure _
  | resetStats => exact silent (.modify (fun _ => rfl) fun _ => rfl)

theorem does_of_carries {C : Course} (a : Action) (carries : C.Carries a.MaySend) :
    Does C a.perform := by
  have silent {x : Work Unit} (hx : Does C x) :
      Does C (x >>= fun _ => pure Answer.nothing) :=
    .bind hx fun _ => .pure _
  cases ordinary : a.isOrdinary with
  | true => exact does_of_bears ordinary carries.toBears fun _ => maySend_of_text?
  | false =>
    cases a with
    | begin o => exact silent (carries.start o)
    | commit => exact silent (carries.finish (.inl rfl))
    | rollback => exact silent (carries.finish (.inr rfl))
    | newSession => exact silent carries.leave
    | _ => cases ordinary

theorem does_perform (a : Action) : Does (operating a.MaySend) a.perform :=
  a.does_of_carries (operating_carries fun _ h => .inl h.not_isControl)

end Action

end DataMapper
