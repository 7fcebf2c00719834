import DataMapper.Proofs.Query.Fragments
import DataMapper.Proofs.Query.Expansion
import DataMapper.Proofs.Record.Rereading

/-!
# What the statements of a record say

An insertion lists the columns of the record's fields, each with its value in the same place. An
update and a deletion are about the one row that has the identity of the record, and an update never
sets that identity.

## Main definitions

* `MappedField.Writable` — the field may be written with the value that it has.
* `Mapping.StoredAs` — the record has been stored under an identity.
* `Mapping.Inserts`, `Mapping.Updates` — what the statements say.

## Main statements

* `Mapping.statements_of_record` — when there are such statements, and what they say.
-/

namespace DataMapper

open Sql Text

/-! ## Fields and their values -/

/-- A field that must not be null is not. -/
def MappedField.Writable (st : TextStore) (r : Record) (f : MappedField) : Prop :=
  f.notNull = true → (f.rawValue st r).isNull = false

instance (st : TextStore) (r : Record) (f : MappedField) : Decidable (f.Writable st r) :=
  inferInstanceAs (Decidable (_ → _))

theorem MappedField.bindValue_of_writable {st : TextStore} {r : Record} {f : MappedField}
    (h : f.Writable st r) : f.bindValue st r = .ok (f.rawValue st r) := by
  refine if_neg fun refused => ?_
  rw [Bool.and_eq_true] at refused
  exact Bool.noConfusion (refused.1.symm.trans (h refused.2))

theorem MappedField.writable_of_bindValue {st : TextStore} {r : Record} {f : MappedField}
    {v : Value} (h : f.bindValue st r = .ok v) : f.Writable st r := by
  intro required
  unfold bindValue at h
  dsimp only at h
  split at h
  · cases h
  · next allowed => simpa [required] using allowed

namespace Mapping

theorem bindFields_of_writable {st : TextStore} {r : Record} {fs : List MappedField}
    (h : ∀ f ∈ fs, f.Writable st r) :
    bindFields st r fs = .ok (fs.map fun f => (f, f.rawValue st r)) := by
  induction fs with
  | nil => rfl
  | cons f fs ih =>
    obtain ⟨first, rest⟩ := List.forall_mem_cons.1 h
    rw [bindFields, List.mapM_cons, f.bindValue_of_writable first, ← bindFields, ih rest]
    rfl

theorem writable_of_bindFields {st : TextStore} {r : Record} {fs : List MappedField}
    {bound : List (MappedField × Value)} (h : bindFields st r fs = .ok bound) :
    ∀ f ∈ fs, f.Writable st r := by
  induction fs generalizing bound with
  | nil => exact fun f hf => (List.not_mem_nil hf).elim
  | cons f fs ih =>
    rw [bindFields, List.mapM_cons, ← bindFields] at h
    cases first : f.bindValue st r with
    | error e => rw [first] at h; cases h
    | ok v =>
      cases rest : bindFields st r fs with
      | error e => rw [first, rest] at h; cases h
      | ok others =>
        exact List.forall_mem_cons.2 ⟨f.writable_of_bindValue first, ih rest⟩

/-! ## Insertions -/

/-- The values of fields as they stand in a statement. -/
def valueFragments (o : BuildOptions) (st : TextStore) (r : Record) (fs : List MappedField) :
    List Fragment :=
  fs.map fun f => .ofValue o (f.rawValue st r)

/-- The statement inserts the values of the listed fields into their columns: as many values as
columns, in one order, and the parameters in the order of the placeholders. With nothing to list it
inserts a row of defaults. -/
structure Inserts (m : Mapping) (o : BuildOptions) (st : TextStore) (r : Record)
    (listed : List MappedField) (p : PreparedStatement) : Prop where
  text : p.sql =
    if listed = [] then m.defaultRowText o.dialect
    else
      "INSERT INTO " ++ m.table ++ " (" ++ String.intercalate "," (listed.map MappedField.column) ++
        ") VALUES (" ++
        String.intercalate "," ((valueFragments o st r listed).map Fragment.string) ++ ")"
  parameters : p.parameters = (valueFragments o st r listed).flatMap Fragment.parameters
  /-- Read from left to right, the list of values has its parameters at its placeholders. -/
  values : (Fragment.join (.ofString ",") (valueFragments o st r listed)).Expands
    (Fragment.join (.ofString ",") (valueFragments o.inlined st r listed))
  /-- So has the whole statement, where no name has a quotation or a question mark. -/
  expands : Closed m.table.toList → (∀ f ∈ listed, Closed f.column.toList) →
    ∃ p', m.insertStatement o.inlined st r = .ok p' ∧
      Fragment.Expands ⟨p.sql.toList, p.parameters⟩ ⟨p'.sql.toList, p'.parameters⟩
  stamped : p.stamped =
    (listed.filter fun f => (f.rawValue st r).isServerNow).map MappedField.index

section

variable {m : Mapping} {o : BuildOptions} {st : TextStore} {r : Record} {fs : List MappedField}

theorem stampedFields_eq (fs : List MappedField) :
    stampedFields (fs.map fun f => (f, f.rawValue st r)) =
      (fs.filter fun f => (f.rawValue st r).isServerNow).map MappedField.index := by
  rw [stampedFields, List.filter_map, List.map_map]
  rfl

theorem expands_valueFragments (o : BuildOptions) (st : TextStore) (r : Record)
    (fs : List MappedField) :
    (Fragment.join (.ofString ",") (valueFragments o st r fs)).Expands
      (Fragment.join (.ofString ",") (valueFragments o.inlined st r fs)) :=
  (Fragment.expands_ofString (by decide)).join
    (Fragment.expands_map fun _ _ => Fragment.expands_ofValue o _)

/-- The insertion of fields with their values. -/
def insertion (m : Mapping) (o : BuildOptions) (st : TextStore) (r : Record)
    (fs : List MappedField) : Fragment :=
  if fs = [] then .ofString (m.defaultRowText o.dialect)
  else
    .ofString "INSERT INTO " ++ .ofString m.table ++ .ofString " (" ++
      .join (.ofString ",") (fs.map fun f => .ofString f.column) ++ .ofString ") VALUES (" ++
      .join (.ofString ",") (valueFragments o st r fs) ++ .ofString ")"

theorem string_columns (fs : List MappedField) :
    (Fragment.join (.ofString ",") (fs.map fun f => .ofString f.column)).string =
      String.intercalate "," (fs.map MappedField.column) := by
  rw [Fragment.string_join, Fragment.string_ofString, List.map_map]
  exact congrArg _ (List.map_congr_left fun f _ => Fragment.string_ofString f.column)

theorem parameters_columns (fs : List MappedField) :
    (Fragment.join (.ofString ",") (fs.map fun f => .ofString f.column)).parameters = [] := by
  rw [Fragment.parameters_join rfl, List.flatMap_map]
  exact List.flatMap_eq_nil_iff.2 fun f _ => rfl

theorem insertStatement_of_writable (h : ∀ f ∈ m.insertedFields st r, f.Writable st r) :
    let a := m.insertion o st r (m.insertedFields st r)
    m.insertStatement o st r = .ok ⟨a.string, a.parameters,
      ((m.insertedFields st r).filter fun f => (f.rawValue st r).isServerNow).map
        MappedField.index⟩ := by
  rw [insertStatement, bindFields_of_writable h]
  generalize m.insertedFields st r = fs
  refine congrArg Except.ok ?_
  rw [stampedFields_eq, List.map_map, List.map_map]
  unfold insertion
  cases fs with
  | nil => simp [Fragment.join, Fragment.empty]
  | cons f fs =>
    rw [if_neg (List.cons_ne_nil f fs)]
    simp only [Fragment.string_append, Fragment.string_ofString, string_columns,
      Fragment.parameters_append, parameters_columns, Fragment.parameters_ofString]
    simp [valueFragments, Fragment.string, Function.comp_def]

theorem expands_insertion (table : Closed m.table.toList)
    (columns : ∀ f ∈ fs, Closed f.column.toList) :
    (m.insertion o st r fs).Expands (m.insertion o.inlined st r fs) := by
  have fixed {s : String} (hs : Closed s.toList) := Fragment.expands_ofString hs
  have comma : Closed ",".toList := by decide
  have names := (fixed comma).join (Fragment.expands_map fun f hf => fixed (columns f hf))
  unfold insertion
  split
  · refine fixed ?_
    unfold defaultRowText
    cases o.dialect with
    | mysql | postgres | sqlite =>
      simp only [String.toList_append]
      exact (Closed.append (by decide) table).append (by decide)
  · exact ((((((fixed (by decide)).append (fixed table)).append (fixed (by decide))).append
      names).append (fixed (by decide))).append (expands_valueFragments o st r fs)).append
        (fixed (by decide))

theorem writable_of_insertStatement {p : PreparedStatement} (h : m.insertStatement o st r = .ok p) :
    ∀ f ∈ m.insertedFields st r, f.Writable st r := by
  cases binds : bindFields st r (m.insertedFields st r) with
  | error e => rw [insertStatement, binds] at h; cases h
  | ok bound => exact writable_of_bindFields binds

theorem inserts_of_insertStatement {p : PreparedStatement} (h : m.insertStatement o st r = .ok p) :
    m.Inserts o st r (m.insertedFields st r) p := by
  have writable := writable_of_insertStatement h
  rw [insertStatement_of_writable writable] at h
  cases h
  refine ⟨?_, ?_, expands_valueFragments o st r _, fun table columns => ?_, rfl⟩
  · dsimp only
    unfold insertion
    split
    · exact Fragment.string_ofString _
    · simp only [Fragment.string_append, Fragment.string_ofString, string_columns]
      rw [Fragment.string_join, Fragment.string_ofString]
  · dsimp only
    unfold insertion
    split
    · next none => rw [none]; rfl
    · simp [Fragment.parameters_join (Fragment.parameters_ofString ",")]
  · refine ⟨_, insertStatement_of_writable writable, ?_⟩
    simp only [Fragment.string, String.toList_ofList]
    exact expands_insertion table columns

end

theorem isAssignedId_iff {v : Value} :
    isAssignedId v = true ↔ ∃ id, v = .int id ∧ 0 ≤ id.toInt := by
  cases v <;> simp [isAssignedId]

theorem isIdentity_iff {t : RecordType} {m : Mapping} (built : ofType t = .ok m) {f : MappedField}
    (hf : f ∈ m.fields) : m.isIdentity f = true ↔ m.identity = some f := by
  unfold isIdentity
  cases identity : m.identity with
  | none => simp
  | some i =>
    rw [Option.some_inj]
    exact ⟨fun same => eq_of_index built (identity_of_ofType built identity).1 hf
      (beq_iff_eq.1 same), fun same => beq_iff_eq.2 (congrArg _ same)⟩

theorem insertedFields_sublist (m : Mapping) (st : TextStore) (r : Record) :
    (m.insertedFields st r).Sublist m.fields := List.filter_sublist

/-- Only an identity without a number is left out. -/
theorem mem_insertedFields {t : RecordType} {m : Mapping} (built : ofType t = .ok m)
    {st : TextStore} {r : Record} {f : MappedField} (hf : f ∈ m.fields) :
    f ∈ m.insertedFields st r ↔
      (m.identity = some f → ∃ id, f.rawValue st r = .int id ∧ 0 ≤ id.toInt) := by
  rw [insertedFields, List.mem_filter, and_iff_right hf, Bool.or_eq_true, isAssignedId_iff,
    Bool.not_eq_true', ← Bool.not_eq_true, isIdentity_iff built hf, imp_iff_not_or]

/-! ## Updates and deletions -/

/-- The record has been stored under an identity. -/
def StoredAs (m : Mapping) (st : TextStore) (r : Record) (i : MappedField) (id : Int64) : Prop :=
  m.identity = some i ∧ i.rawValue st r = .int id ∧ 0 ≤ id.toInt

/-- The fields that an update sets. -/
def updatedFields (i : MappedField) (fields : List MappedField) : List MappedField :=
  fields.filter fun f => f.index != i.index

/-- The statement sets fields in the one row with an identity, which is none of them. -/
structure Updates (m : Mapping) (o : BuildOptions) (st : TextStore) (r : Record)
    (set : List MappedField) (i : MappedField) (id : Int64) (p : PreparedStatement) : Prop where
  text : p.sql =
    "UPDATE " ++ m.table ++ o.separator ++ "SET " ++
      String.intercalate ","
        (set.map fun f => f.column ++ "=" ++ (Fragment.ofValue o (f.rawValue st r)).string) ++
      o.separator ++ "WHERE " ++ i.column ++ "=" ++ (Fragment.ofValue o (.int id)).string
  parameters : p.parameters =
    (valueFragments o st r set).flatMap Fragment.parameters ++
      (Fragment.ofValue o (.int id)).parameters
  stamped : p.stamped =
    (set.filter fun f => (f.rawValue st r).isServerNow).map MappedField.index
  apart : ∀ f ∈ set, f ≠ i ∧ sameName f.column i.column = false

/-- The statement deletes the one row with an identity. -/
structure Deletes (m : Mapping) (o : BuildOptions) (i : MappedField) (id : Int64)
    (p : PreparedStatement) : Prop where
  text : p.sql =
    "DELETE FROM " ++ m.table ++ o.separator ++ "WHERE " ++ i.column ++ "=" ++
      (Fragment.ofValue o (.int id)).string
  parameters : p.parameters = (Fragment.ofValue o (.int id)).parameters
  stamped : p.stamped = []

section

variable {t : RecordType} {m : Mapping} {o : BuildOptions} {st : TextStore} {r : Record}
  {i : MappedField} {id : Int64}

theorem isBlankText_table (built : ofType t = .ok m) : isBlankText m.table = false := by
  rw [table, (eq_of_ofType built).1, (ofType_eq_ok_iff_checks.1 built).1]

theorem storedAs_of_persistedId (built : ofType t = .ok m) (fits : r.Fits st t)
    (identity : m.identity = some i) (h : m.persistedId st r = .ok (some id)) :
    m.StoredAs st r i id := by
  refine ⟨identity, ?_⟩
  rw [persistedId, check_of_fits built fits, requireIdentity, identity] at h
  simp only [bind, Except.bind] at h
  split at h
  · cases h
  · next n int =>
    cases Int.lt_or_le n.toInt 0 with
    | inl negative =>
      rw [if_neg (Int.not_le.2 negative)] at h
      cases h
    | inr nonneg =>
      rw [if_pos nonneg] at h
      cases h
      exact ⟨int, nonneg⟩
  · cases h

theorem storedIdentity_eq_ok_iff (built : ofType t = .ok m) (fits : r.Fits st t)
    (operation : String) :
    m.storedIdentity st r operation = .ok (i, id) ↔ m.StoredAs st r i id := by
  constructor
  · intro stored
    unfold storedIdentity requireIdentity at stored
    cases identity : m.identity with
    | none => rw [identity] at stored; cases stored
    | some j =>
      cases found : m.persistedId st r with
      | error e => rw [identity, found] at stored; cases stored
      | ok number =>
        rw [identity, found] at stored
        cases number with
        | none => cases stored
        | some n =>
          cases stored
          exact storedAs_of_persistedId built fits identity found
  · rintro ⟨identity, int, nonneg⟩
    rw [storedIdentity, requireIdentity, identity,
      persistedId_of_assigned built fits identity int nonneg]
    rfl

/-- A field that is set to a value. -/
def assignment (o : BuildOptions) (b : MappedField × Value) : Fragment :=
  .ofString b.1.column ++ .ofString "=" ++ .ofValue o b.2

theorem isEmpty_assignment (o : BuildOptions) (b : MappedField × Value) :
    (assignment o b).isEmpty = false := by
  simp [assignment, Fragment.isEmpty]

/-- The query with assignments behind those that it has. -/
theorem foldl_assign (q : Query) (as : List Fragment) (bs : List (MappedField × Value))
    (before : q.statement = .update (Fragment.join (.ofString ",") as))
    (solid : ∀ a ∈ as, a.isEmpty = false) :
    bs.foldl (fun q b => q.assign b.1.column b.2) q =
      { q with
        statement := .update
          (Fragment.join (.ofString ",") (as ++ bs.map (assignment q.options))) } := by
  induction bs generalizing q as with
  | nil =>
    rw [List.map_nil, List.append_nil, ← before]
    rfl
  | cons b bs ih =>
    have first : q.assign b.1.column b.2 =
        { q with
          statement := .update
            (Fragment.join (.ofString ",") (as ++ [assignment q.options b])) } := by
      rw [Query.assign, Query.addAssignment, before]
      dsimp only
      rw [Fragment.isEmpty_join _ solid]
      cases as with
      | nil => rfl
      | cons a as =>
        rw [Fragment.join_concat _ (List.cons_ne_nil a as)]
        rfl
    rw [List.foldl_cons, first, ih _ _ rfl]
    · rw [List.map_cons, List.append_assoc]
      rfl
    · exact List.forall_mem_append.2
        ⟨solid, List.forall_mem_singleton.2 (isEmpty_assignment q.options b)⟩

/-- The row has an identity. -/
def identityCondition (o : BuildOptions) (i : MappedField) (id : Int64) : Fragment :=
  .ofString i.column ++ .ofString "=" ++ .ofValue o (.int id)

theorem isEmpty_identityCondition (o : BuildOptions) (i : MappedField) (id : Int64) :
    (identityCondition o i id).isEmpty = false := by
  simp [identityCondition, Fragment.isEmpty]

/-- The update of set fields in the row with an identity. -/
def updating (m : Mapping) (o : BuildOptions) (st : TextStore) (r : Record)
    (set : List MappedField) (i : MappedField) (id : Int64) : Fragment :=
  .ofString "UPDATE " ++ .ofString m.table ++ .ofString o.separator ++ .ofString "SET " ++
    .join (.ofString ",") (set.map fun f => assignment o (f, f.rawValue st r)) ++
    (.ofString o.separator ++ .ofString "WHERE " ++ identityCondition o i id)

/-- The deletion of the row with an identity. -/
def deleting (m : Mapping) (o : BuildOptions) (i : MappedField) (id : Int64) : Fragment :=
  .ofString "DELETE FROM " ++ (.ofString m.table ++
    (.ofString o.separator ++ .ofString "WHERE " ++ identityCondition o i id))

/-- The only condition of a query becomes that its row has an identity. -/
theorem compare_identity {q : Query} (unaliased : q.tableAlias = none)
    (fresh : q.condition = .empty) (i : MappedField) (id : Int64) :
    q.compare false i.column (.int id) false =
      { q with condition := identityCondition q.options i id } := by
  simp only [Query.compare, Query.addCondition, Query.comparison, Query.columnText, unaliased,
    fresh]
  rfl

theorem clause_identity (q : Query) (o : BuildOptions) (i : MappedField) (id : Int64) :
    q.clause "WHERE " (identityCondition o i id) =
      q.separator ++ .ofString "WHERE " ++ identityCondition o i id :=
  if_neg (by simp [isEmpty_identityCondition])

theorem clause_empty (q : Query) (word : String) : q.clause word .empty = .empty := rfl

/-- A query that is in order is prepared as it is. -/
theorem preparedQuery_of_validate {q : Query} {a : Fragment} (valid : q.validate = .ok ())
    (same : q.fragment = a) (stamped : List Nat) :
    preparedQuery q stamped = .ok ⟨a.string, a.parameters, stamped⟩ := by
  rw [preparedQuery, valid, ← same]
  rfl

theorem deleteStatement_of_storedAs (built : ofType t = .ok m) (fits : r.Fits st t)
    (stored : m.StoredAs st r i id) :
    m.deleteStatement o st r =
      .ok ⟨(m.deleting o i id).string, (m.deleting o i id).parameters, []⟩ := by
  rw [deleteStatement, (storedIdentity_eq_ok_iff built fits "delete").2 stored]
  simp only [bind, Except.bind]
  rw [compare_identity rfl rfl]
  refine preparedQuery_of_validate ?_ ?_ []
  · simp [Query.validate, Query.delete, isBlankText_table built, isEmpty_identityCondition]
  · simp only [Query.fragment, Query.source, Query.tableText, Query.delete, clause_identity,
      clause_empty, Fragment.append_empty]
    rfl

theorem updateStatement_of_storedAs (built : ofType t = .ok m) (fits : r.Fits st t)
    (stored : m.StoredAs st r i id) {set fields : List MappedField}
    (set_eq : updatedFields i fields = set) (ne : set ≠ [])
    (writable : ∀ f ∈ set, f.Writable st r) :
    m.updateStatement o st r fields =
      .ok ⟨(m.updating o st r set i id).string, (m.updating o st r set i id).parameters,
        (set.filter fun f => (f.rawValue st r).isServerNow).map MappedField.index⟩ := by
  have solid : (Fragment.join (.ofString ",")
      (set.map fun f => assignment o (f, f.rawValue st r))).isEmpty = false := by
    rw [Fragment.isEmpty_join, List.isEmpty_map]
    · simpa using ne
    · exact List.forall_mem_map.2 fun f _ => isEmpty_assignment o _
  rw [updateStatement, (storedIdentity_eq_ok_iff built fits "update").2 stored]
  simp only [bind, Except.bind]
  rw [← updatedFields, set_eq, bindFields_of_writable writable]
  dsimp only
  rw [foldl_assign (Query.update m.table o) [] _ rfl (by simp), List.nil_append, List.map_map,
    compare_identity rfl rfl, stampedFields_eq]
  refine (if_neg (ne_true_of_eq_false solid)).trans (preparedQuery_of_validate ?_ ?_ _)
  · simp only [Query.validate, Query.update, isBlankText_table built, Bool.false_eq_true, if_false]
    exact if_neg (ne_true_of_eq_false solid)
  · simp only [Query.fragment, Query.tableText, Query.update, clause_identity, clause_empty,
      Fragment.append_empty]
    rfl

theorem storedAs_of_deleteStatement (built : ofType t = .ok m) (fits : r.Fits st t)
    {p : PreparedStatement} (h : m.deleteStatement o st r = .ok p) :
    ∃ i id, m.StoredAs st r i id := by
  cases found : m.storedIdentity st r "delete" with
  | error e => rw [deleteStatement, found] at h; cases h
  | ok stored => exact ⟨_, _, (storedIdentity_eq_ok_iff built fits "delete").1 found⟩

theorem storedAs_of_updateStatement (built : ofType t = .ok m) (fits : r.Fits st t)
    {fields : List MappedField} {p : PreparedStatement}
    (h : m.updateStatement o st r fields = .ok p) :
    ∃ i id, m.StoredAs st r i id ∧ updatedFields i fields ≠ [] ∧
      ∀ f ∈ updatedFields i fields, f.Writable st r := by
  cases found : m.storedIdentity st r "update" with
  | error e => rw [updateStatement, found] at h; cases h
  | ok stored =>
    obtain ⟨i, id⟩ := stored
    refine ⟨i, id, (storedIdentity_eq_ok_iff built fits "update").1 found, ?_⟩
    rw [updateStatement, found] at h
    simp only [bind, Except.bind] at h
    rw [← updatedFields] at h
    cases binds : bindFields st r (updatedFields i fields) with
    | error e => rw [binds] at h; cases h
    | ok bound =>
      refine ⟨fun none => ?_, writable_of_bindFields binds⟩
      rw [none] at binds
      rw [none, binds] at h
      cases binds
      cases h

/-- The fields that are set have other columns than the identity. -/
theorem updates_of_updateStatement (built : ofType t = .ok m) (fits : r.Fits st t)
    (stored : m.StoredAs st r i id) {fields : List MappedField}
    (listed : ∀ f ∈ fields, f ∈ m.fields) {p : PreparedStatement}
    (h : m.updateStatement o st r fields = .ok p) :
    m.Updates o st r (updatedFields i fields) i id p := by
  obtain ⟨i', id', stored', ne, writable⟩ := storedAs_of_updateStatement built fits h
  cases stored.1.symm.trans stored'.1
  rw [updateStatement_of_storedAs built fits stored rfl ne writable] at h
  cases h
  refine ⟨?_, ?_, rfl, fun f hf => ?_⟩
  · simp only [updating, assignment, identityCondition, Fragment.string_append,
      Fragment.string_ofString, Fragment.string_join, List.map_map, Function.comp_def,
      String.append_assoc]
  · simp only [updating, identityCondition, Fragment.parameters_append,
      Fragment.parameters_ofString, Fragment.parameters_join (Fragment.parameters_ofString ","),
      assignment, valueFragments, List.flatMap_map, List.nil_append, List.append_nil]
  · obtain ⟨given, other⟩ := List.mem_filter.1 hf
    have apart : f ≠ i := fun same => by simp [same] at other
    have symm : Std.Symm fun f g : MappedField => sameName f.column g.column = false :=
      ⟨fun f g h => (sameName_comm _ _).trans h⟩
    exact ⟨apart, (distinct_of_ofType built).forall (listed f given)
      (identity_of_ofType built stored.1).1 apart⟩

theorem deletes_of_deleteStatement (built : ofType t = .ok m) (fits : r.Fits st t)
    (stored : m.StoredAs st r i id) {p : PreparedStatement}
    (h : m.deleteStatement o st r = .ok p) : m.Deletes o i id p := by
  rw [deleteStatement_of_storedAs built fits stored] at h
  cases h
  refine ⟨?_, ?_, rfl⟩
  · simp only [deleting, identityCondition, Fragment.string_append, Fragment.string_ofString,
      String.append_assoc]
  · simp only [deleting, identityCondition, Fragment.parameters_append,
      Fragment.parameters_ofString, List.nil_append]

end

/-! ## All statements -/

/-- A record is inserted with all its fields in the order of their declaration, but for an identity
that is not a number from zero on, if and only if none of them is null against its declaration. It
is updated and deleted only if its identity is such a number, and always in the one row with that
identity; an update also needs a field to set, and none that is null against its declaration. -/
theorem statements_of_record {t : RecordType} {m : Mapping} (built : ofType t = .ok m)
    {st : TextStore} {r : Record} (fits : r.Fits st t) (o : BuildOptions) :
    let listed := m.insertedFields st r
    (m.fields.map MappedField.declaration = t.fields ∧ listed.Sublist m.fields ∧
      (∀ f ∈ m.fields, f ∈ listed ↔
        (m.identity = some f → ∃ id, f.rawValue st r = .int id ∧ 0 ≤ id.toInt)) ∧
      ((∃ p, m.insertStatement o st r = .ok p) ↔ ∀ f ∈ listed, f.Writable st r) ∧
      ∀ p, m.insertStatement o st r = .ok p → m.Inserts o st r listed p) ∧
    (∀ fields, (∀ f ∈ fields, f ∈ m.fields) →
      ((∃ p, m.updateStatement o st r fields = .ok p) ↔
        ∃ i id, m.StoredAs st r i id ∧ updatedFields i fields ≠ [] ∧
          ∀ f ∈ updatedFields i fields, f.Writable st r) ∧
      ∀ p, m.updateStatement o st r fields = .ok p →
        ∃ i id, m.StoredAs st r i id ∧ m.Updates o st r (updatedFields i fields) i id p) ∧
    ((∃ p, m.deleteStatement o st r = .ok p) ↔ ∃ i id, m.StoredAs st r i id) ∧
    ∀ p, m.deleteStatement o st r = .ok p →
      ∃ i id, m.StoredAs st r i id ∧ m.Deletes o i id p := by
  refine ⟨⟨?_, m.insertedFields_sublist st r, fun f hf => mem_insertedFields built hf, ?_,
    fun p h => inserts_of_insertStatement h⟩, fun fields listed => ⟨?_, fun p h => ?_⟩, ?_,
    fun p h => ?_⟩
  · rw [(eq_of_ofType built).2.1, map_declaration_numberFields]
  · exact ⟨fun ⟨p, h⟩ => writable_of_insertStatement h,
      fun writable => ⟨_, insertStatement_of_writable writable⟩⟩
  · constructor
    · rintro ⟨p, h⟩
      exact storedAs_of_updateStatement built fits h
    · rintro ⟨i, id, stored, ne, writable⟩
      exact ⟨_, updateStatement_of_storedAs built fits stored rfl ne writable⟩
  · obtain ⟨i, id, stored, -⟩ := storedAs_of_updateStatement built fits h
    exact ⟨i, id, stored, updates_of_updateStatement built fits stored listed h⟩
  · constructor
    · rintro ⟨p, h⟩
      exact storedAs_of_deleteStatement built fits h
    · rintro ⟨i, id, stored⟩
      exact ⟨_, deleteStatement_of_storedAs built fits stored⟩
  · obtain ⟨i, id, stored⟩ := storedAs_of_deleteStatement built fits h
    exact ⟨i, id, stored, deletes_of_deleteStatement built fits stored h⟩

/-- An article is inserted, and its title and its date are updated. -/
theorem statements_of_article :
    ∃ m i, ofType articles = .ok m ∧ m.StoredAs articleStore article i 7 ∧
      (∃ p, m.insertStatement {} articleStore article = .ok p ∧
        m.Inserts {} articleStore article m.fields p) ∧
      ∃ p, m.updateStatement {} articleStore article m.fields = .ok p ∧
        m.Updates {} articleStore article (m.fields.drop 1) i 7 p := by
  obtain ⟨⟨-, -, -, inserted, inserts⟩, updated, -⟩ :=
    @statements_of_record articles _ rfl articleStore article fits_article {}
  refine ⟨_, ⟨_, 0⟩, rfl, ⟨rfl, rfl, by decide⟩, ?_, ?_⟩
  · obtain ⟨p, h⟩ := inserted.2 (by decide)
    exact ⟨p, h, inserts p h⟩
  · obtain ⟨sets, updates⟩ := updated _ fun f hf => hf
    obtain ⟨p, h⟩ := sets.2 ⟨⟨_, 0⟩, 7, ⟨rfl, rfl, by decide⟩, List.cons_ne_nil _ _, by decide⟩
    obtain ⟨i, id, ⟨identity, int, -⟩, update⟩ := updates p h
    cases identity
    cases int
    exact ⟨p, h, update⟩

end Mapping

end DataMapper
