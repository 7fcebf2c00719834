import DataMapper.Session.Command

/-!
# Operations that are refused

Before an operation has anything to do with a connection it looks at its arguments, at the records
of the workspace and at the types of these. What is refused then, is refused without any trace.

## Main definitions

* `Work.Looks` — work that only looks something up.
* `Action.check` — what an operation makes sure of before it asks for a connection.
-/

namespace DataMapper

open Work

namespace Work

variable {α β : Type} {x : Work α} {f : α → Work β} {w : Workspace} {e : Error}

/-- The work looks something up, and fails if it is not there. -/
def Looks (x : Work α) (find : Workspace → Except Error α) : Prop :=
  ∀ w, x w = match find w with
    | .ok a => (.done a, w)
    | .error e => (.failed e, w)

/-- The work fails without any trace. -/
def Refuses (x : Work α) (w : Workspace) (e : Error) : Prop := x w = (.failed e, w)

theorem Refuses.bind (h : x.Refuses w e) : (x >>= f).Refuses w e := by
  unfold Refuses at h ⊢
  rw [bind_apply, h]

/-- What is there is passed on. -/
theorem Looks.bind_eq {find : Workspace → Except Error α} {a : α} (h : x.Looks find)
    (found : find w = .ok a) : (x >>= f) w = f a w := by
  have looked := h w
  rw [found] at looked
  rw [bind_apply, looked]

theorem Looks.eq_of_done {v : Workspace} {find : Workspace → Except Error α} {a : α}
    (h : x.Looks find) (run : x w = (.done a, v)) : find w = .ok a ∧ v = w := by
  have looked := h w
  rw [run] at looked
  split at looked
  · next found =>
    cases looked
    exact ⟨found, rfl⟩
  · cases looked

/-- What is looked up is not there, or what follows is refused. -/
theorem Looks.refuses {find : Workspace → Except Error α} (h : x.Looks find)
    {check : α → Except Error Unit} (refused : find w >>= check = .error e)
    (next : ∀ a, check a = .error e → (f a).Refuses w e) : (x >>= f).Refuses w e := by
  have looked := h w
  cases found : find w with
  | ok a =>
    rw [found] at refused
    exact (h.bind_eq found).trans (next a refused)
  | error e' =>
    rw [found] at looked refused
    cases refused
    exact Refuses.bind looked

/-- What is always there is looked up without more ado. -/
theorem Looks.refuses_next {find : Workspace → α} (h : x.Looks fun w => .ok (find w))
    (next : (f (find w)).Refuses w e) : (x >>= f).Refuses w e :=
  (h.bind_eq rfl).trans next

theorem looks_ofExcept (found : Except Error α) : (ofExcept found).Looks fun _ => found := by
  intro w
  cases found <;> rfl

theorem looks_options : options.Looks fun w => .ok w.database.config.buildOptions := fun _ => rfl

end Work

/-- The record of a name. -/
def Workspace.find (w : Workspace) (name : String) : Except Error Record :=
  match w.records.lookup name with
  | some r => .ok r
  | none => .error (.notFound (.record name))

/-- The mapping of a type that is in order. -/
def RecordType.mapping (t : RecordType) : Except Error Mapping :=
  match Mapping.ofType t with
  | .ok m => .ok m
  | .error fault => .error (.mapping fault)

/-! ## Checks -/

namespace Session

variable {w : Workspace} {e : Error}

theorem looks_texts : texts.Looks fun w => .ok w.store := fun _ => rfl

theorem looks_record (name : String) : (record name).Looks fun w => w.find name := by
  intro w
  unfold record Workspace.find
  simp only [Work.bind_apply, Work.read]
  cases w.records.lookup name <;> rfl

theorem looks_mappingOf (t : RecordType) : (mappingOf t).Looks fun _ => t.mapping := by
  intro w
  unfold mappingOf RecordType.mapping
  cases Mapping.ofType t <;> rfl

/-- Whether the fields of a named record can be updated. -/
def checkUpdateWith (w : Workspace) (m : Mapping) (name : String) (fields : List MappedField) :
    Except Error Unit := do
  let r ← w.find name
  let _ ← m.updateStatement w.database.config.buildOptions w.store r fields
  let _ ← m.storedIdentity w.store r "update"
  return

def checkUpdate (w : Workspace) (name : String) : Except Error Unit := do
  let r ← w.find name
  let m ← r.type.mapping
  checkUpdateWith w m name m.fields

def checkInsert (w : Workspace) (name : String) : Except Error Unit := do
  let r ← w.find name
  let m ← r.type.mapping
  let _ ← m.insertStatement w.database.config.buildOptions w.store r
  return

theorem refuses_ask {q : Query} {sql : String} (h : q.validate = .error e) :
    (ask q sql).Refuses w e := by
  unfold ask
  rw [h]
  exact Refuses.bind rfl

theorem refuses_updateWith {m : Mapping} {name : String} {fields : List MappedField}
    (h : checkUpdateWith w m name fields = .error e) :
    (updateWith m name fields).Refuses w e := by
  refine (looks_record name).refuses h fun r h => ?_
  refine looks_options.refuses_next (looks_texts.refuses_next ?_)
  refine (looks_ofExcept _).refuses h fun p h => looks_texts.refuses_next ?_
  refine (looks_ofExcept _).refuses h fun _ h => ?_
  cases h

theorem refuses_update {name : String} (h : checkUpdate w name = .error e) :
    (update name).Refuses w e := by
  refine (looks_record name).refuses h fun r h => ?_
  exact (looks_mappingOf _).refuses h fun m h => refuses_updateWith h

theorem refuses_insert {name : String} (h : checkInsert w name = .error e) :
    (insert name).Refuses w e := by
  refine (looks_record name).refuses h fun r h => ?_
  refine (looks_mappingOf _).refuses h fun m h => ?_
  refine looks_options.refuses_next (looks_texts.refuses_next ?_)
  refine (looks_ofExcept _).refuses h fun p h => ?_
  cases h

theorem refuses_savepointCommand {command name : String} (h : Sql.isSavepointName name = false) :
    (savepointCommand command name).Refuses w (.validation (.savepointName name)) := by
  unfold savepointCommand Refuses
  simp only [h]
  rfl

end Session

namespace Action

/-- What the operation makes sure of before it asks for a connection. -/
def check (w : Workspace) : Action → Except Error Unit
  | queryRows q | count q | execute q => do
    let q ← q.build w.database.config.buildOptions
    q.validate
  | query t q | queryOne t q | queryOptional t q => do
    let q ← q.build w.database.config.buildOptions
    let _ ← t.mapping
    q.validate
  | load t id _ => do
    let m ← t.mapping
    let q ← m.selectById w.database.config.buildOptions id none
    q.validate
  | createTable t => do
    let _ ← t.mapping
    return
  | store name => do
    let r ← w.find name
    let m ← r.type.mapping
    if ← m.isPersisted w.store r then Session.checkUpdate w name else Session.checkInsert w name
  | insert name => Session.checkInsert w name
  | update name => Session.checkUpdate w name
  | updateFields name names => do
    let r ← w.find name
    let m ← r.type.mapping
    let fields ← m.fieldsNamed names
    Session.checkUpdateWith w m name fields
  | delete name => do
    let r ← w.find name
    let m ← r.type.mapping
    let _ ← m.deleteStatement w.database.config.buildOptions w.store r
    return
  | refresh name => do
    let r ← w.find name
    let m ← r.type.mapping
    let (_, id) ← m.storedIdentity w.store r "refresh"
    let q ← m.selectById w.database.config.buildOptions id none
    q.validate
  | savepoint name | rollbackTo name | release name =>
    if Sql.isSavepointName name then .ok () else .error (.validation (.savepointName name))
  | fail e => .error e
  | _ => .ok ()

theorem looks_built (q : QueryPlan) :
    (built q).Looks fun w => q.build w.database.config.buildOptions :=
  fun w => looks_ofExcept (q.build w.database.config.buildOptions) w

/-- What is refused leaves no trace: nothing is sent, and nothing is recovered. -/
theorem refuses_perform {a : Action} {w : Workspace} {e : Error} (h : a.check w = .error e) :
    a.perform.Refuses w e := by
  have named {command name : String} (refused : (if Sql.isSavepointName name then .ok ()
      else .error (.validation (.savepointName name)) : Except Error Unit) = .error e) :
      (Session.savepointCommand command name).Refuses w e := by
    split at refused
    · cases refused
    · next unnamed =>
      cases refused
      exact Session.refuses_savepointCommand (by simpa using unnamed)
  cases a with
  | queryRows q => exact (looks_built q).refuses h fun q h => (Session.refuses_ask h).bind
  | count q => exact (looks_built q).refuses h fun q h => (Session.refuses_ask h).bind.bind
  | execute q =>
    refine (looks_built q).refuses h fun q h => Refuses.bind ?_
    unfold Session.execute
    rw [h]
    exact Refuses.bind rfl
  | query t q =>
    refine (looks_built q).refuses h fun q h => Refuses.bind ?_
    exact (Session.looks_mappingOf t).refuses h fun m h => (Session.refuses_ask h).bind
  | queryOptional t q =>
    refine (looks_built q).refuses h fun q h => Refuses.bind ?_
    exact (Session.looks_mappingOf t).refuses h fun m h => (Session.refuses_ask h).bind
  | queryOne t q =>
    refine (looks_built q).refuses h fun q h => Refuses.bind (Refuses.bind ?_)
    exact (Session.looks_mappingOf t).refuses h fun m h => (Session.refuses_ask h).bind
  | load t id name =>
    refine Refuses.bind ((Session.looks_mappingOf t).refuses h fun m h => ?_)
    refine looks_options.refuses_next ((looks_ofExcept _).refuses h fun q h => ?_)
    exact (Session.refuses_ask h).bind
  | createTable t =>
    refine Refuses.bind ((Session.looks_mappingOf t).refuses h fun m h => ?_)
    cases h
  | store name =>
    refine Refuses.bind ((Session.looks_record name).refuses h fun r h => ?_)
    refine (Session.looks_mappingOf _).refuses h fun m h => Session.looks_texts.refuses_next ?_
    refine (looks_ofExcept _).refuses h fun persisted h => ?_
    cases persisted with
    | true => exact Session.refuses_update h
    | false => exact Session.refuses_insert h
  | insert name => exact (Session.refuses_insert h).bind
  | update name => exact (Session.refuses_update h).bind
  | updateFields name names =>
    refine Refuses.bind ((Session.looks_record name).refuses h fun r h => ?_)
    refine (Session.looks_mappingOf _).refuses h fun m h => ?_
    exact (looks_ofExcept _).refuses h fun fields h => Session.refuses_updateWith h
  | delete name =>
    refine Refuses.bind ((Session.looks_record name).refuses h fun r h => ?_)
    refine (Session.looks_mappingOf _).refuses h fun m h => ?_
    refine looks_options.refuses_next (Session.looks_texts.refuses_next ?_)
    refine (looks_ofExcept _).refuses h fun p h => ?_
    cases h
  | refresh name =>
    refine Refuses.bind ((Session.looks_record name).refuses h fun r h => ?_)
    refine (Session.looks_mappingOf _).refuses h fun m h => Session.looks_texts.refuses_next ?_
    refine (looks_ofExcept _).refuses h fun stored h => looks_options.refuses_next ?_
    refine (looks_ofExcept _).refuses h fun q h => ?_
    exact (Session.refuses_ask h).bind
  | savepoint name | rollbackTo name | release name => exact (named h).bind
  | fail e' =>
    cases h
    rfl
  | _ => cases h

end Action

end DataMapper
