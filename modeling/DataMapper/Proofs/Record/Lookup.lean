import DataMapper.Proofs.Field.Maps
import DataMapper.Proofs.Record.Reading

/-!
# Fields by name

A record type is mapped when it is in order, and not otherwise. Through the mapping each field is
found under its name and under its column. Where a name of one field is the column of another, the
field that has the name is found; the columns of two fields may even be each other's names.

## Main definitions

* `RecordType.InOrder` — what a record type has to be like.
* `Mapping.Designates` — the field that a name belongs to.

## Main statements

* `Mapping.ofType_eq_ok_iff` — when there is a mapping, and which one.
* `Mapping.field?_eq_some_iff` — what is found under a name.
-/

namespace DataMapper

open Text

/-- The record type can be mapped: it has a table and fields, no two fields share a name or a
column, and its identity, where it has one, is a field with whole numbers. -/
structure RecordType.InOrder (t : RecordType) : Prop where
  table : ∃ c ∈ t.table.toList, isBlank c = false
  fields : t.fields ≠ []
  names : t.fields.Pairwise fun d e => sameName d.name e.name = false
  columns : t.fields.Pairwise fun d e => sameName d.column e.column = false
  declared : ∀ name, t.identity = some name → ∃ d ∈ t.fields, sameName d.name name = true
  whole : ∀ d ∈ t.fields, sameName d.name (t.identity.getD "id") = true →
    d.shape.fieldType.isInteger = true

namespace Mapping

/-! ## Building -/

theorem exists_numberFields {k : Nat} {ds : List FieldDeclaration} (p : FieldDeclaration → Prop) :
    (∃ f ∈ numberFields k ds, p f.declaration) ↔ ∃ d ∈ ds, p d := by
  have each : (∃ d ∈ (numberFields k ds).map MappedField.declaration, p d) ↔
      ∃ f ∈ numberFields k ds, p f.declaration := by simp
  rw [← each, map_declaration_numberFields]

theorem forall_numberFields {k : Nat} {ds : List FieldDeclaration} (p : FieldDeclaration → Prop) :
    (∀ f ∈ numberFields k ds, p f.declaration) ↔ ∀ d ∈ ds, p d := by
  rw [← List.forall_mem_map, map_declaration_numberFields]

theorem pairwise_numberFields {k : Nat} {ds : List FieldDeclaration}
    (apart : FieldDeclaration → FieldDeclaration → Prop) :
    (numberFields k ds).Pairwise (fun f g => apart f.declaration g.declaration) ↔
      ds.Pairwise apart := by
  rw [← List.pairwise_map, map_declaration_numberFields]

variable {t : RecordType} {m : Mapping}

/-- There is a mapping exactly for a record type in order. Its identity is the field with the
declared name, or else the one called `id`. -/
theorem ofType_eq_ok_iff :
    ofType t = .ok m ↔
      t.InOrder ∧ m = ⟨t, numberFields 0 t.fields,
        named? (numberFields 0 t.fields) (t.identity.getD "id")⟩ := by
  have table : isBlankText t.table = false ↔ ∃ c ∈ t.table.toList, isBlank c = false := by
    simp [isBlankText]
  have declared : (∀ name, t.identity = some name → ∃ d ∈ t.fields, sameName d.name name = true) ↔
      (t.identity.isSome = true →
        (named? (numberFields 0 t.fields) (t.identity.getD "id")).isSome = true) := by
    cases t.identity with
    | none => simp
    | some name =>
      simp only [named?, List.find?_isSome, Option.some.injEq, forall_eq', Option.isSome_some,
        Option.getD_some, true_implies]
      exact (exists_numberFields fun d => sameName d.name name = true).symm
  -- what is found for the identity is the only field with its name
  have whole (apart : t.fields.Pairwise fun d e => sameName d.name e.name = false) :
      (∀ i, named? (numberFields 0 t.fields) (t.identity.getD "id") = some i →
          i.type.isInteger = true) ↔
        ∀ d ∈ t.fields, sameName d.name (t.identity.getD "id") = true →
          d.shape.fieldType.isInteger = true := by
    have own := (pairwise_numberFields (k := 0) _).2 apart
    rw [← forall_numberFields (k := 0)]
    simp only [named?, @find?_sameName_eq_some_iff _ MappedField.name _ own, and_imp]
    rfl
  rw [ofType_eq_ok_iff_checks, checkNames_eq_ok_iff .nil, List.nil_append, table]
  constructor
  · rintro ⟨filled, fields, apart, found, identity, integer, rfl⟩
    obtain ⟨rfl, there⟩ := findIdentity_eq_ok_iff.1 identity
    exact ⟨⟨filled, fields, apart.imp And.left, apart.imp And.right, declared.2 there,
      (whole (apart.imp And.left)).1 integer⟩, rfl⟩
  · rintro ⟨order, rfl⟩
    exact ⟨order.table, order.fields, order.names.and order.columns, _,
      findIdentity_eq_ok_iff.2 ⟨rfl, declared.1 order.declared⟩, (whole order.names).2 order.whole,
      rfl⟩

/-! ## Places -/

theorem getElem?_numberFields (k i : Nat) (ds : List FieldDeclaration) :
    (numberFields k ds)[i]? = (ds[i]?).map fun d => ⟨d, k + i⟩ := by
  induction ds generalizing k i with
  | nil => rfl
  | cons d ds ih =>
    cases i with
    | zero => rfl
    | succ i => simp [numberFields, ih, Nat.add_right_comm, Nat.add_assoc]

/-- The first field with the key is entered under it, unless there is an entry already. -/
theorem find?_enterPlaces (key : MappedField → String) (fs : List MappedField)
    (places : KeyMap Nat) (s : String) :
    (enterPlaces key fs places).find? (foldCase s) =
      (places.find? (foldCase s)).or
        ((fs.find? fun f => sameName (key f) s).map MappedField.index) := by
  induction fs generalizing places with
  | nil => exact Option.or_none.symm
  | cons f fs ih =>
    rw [enterPlaces, List.foldl_cons, ← enterPlaces, ih, KeyMap.find?_insertNew, Option.or_assoc]
    simp only [foldCase_eq_iff, List.find?_cons]
    cases sameName (key f) s <;> rfl

section

variable (built : ofType t = .ok m)
include built

theorem getElem?_of_ofType {f : MappedField} (hf : f ∈ m.fields) : m.fields[f.index]? = some f := by
  obtain ⟨-, fields, -⟩ := eq_of_ofType built
  rw [fields, getElem?_numberFields, declared_of_ofType built hf, Option.map_some, Nat.zero_add]

/-- The names are searched first, and then the columns. -/
theorem field?_eq (s : String) :
    m.field? s = (named? m.fields s).or (m.fields.find? fun f => sameName f.column s) := by
  have entered : m.places.find? (foldCase s) =
      ((named? m.fields s).map MappedField.index).or
        ((m.fields.find? fun f => sameName f.column s).map MappedField.index) := by
    rw [places, find?_enterPlaces, find?_enterPlaces, named?]
    rfl
  rw [field?, entered]
  cases named : named? m.fields s with
  | none =>
    cases column : m.fields.find? fun f => sameName f.column s with
    | none => rfl
    | some f => exact getElem?_of_ofType built (List.mem_of_find?_eq_some column)
  | some f => exact getElem?_of_ofType built (List.mem_of_find?_eq_some named)

/-- No two fields have the same name. -/
theorem names_of_ofType : m.fields.Pairwise fun f g => sameName f.name g.name = false := by
  obtain ⟨order, rfl⟩ := ofType_eq_ok_iff.1 built
  exact (pairwise_numberFields _).2 order.names

end

/-! ## Fields by name -/

/-- A name belongs to the field that is called so; where no field is, it belongs to the field with
that column. -/
def Designates (m : Mapping) (s : String) (f : MappedField) : Prop :=
  f ∈ m.fields ∧ (sameName f.name s = true ∨
    sameName f.column s = true ∧ ∀ g ∈ m.fields, sameName g.name s = false)

section

variable (built : ofType t = .ok m)
include built

theorem field?_eq_some_iff {s : String} {f : MappedField} :
    m.field? s = some f ↔ m.Designates s f := by
  have name : named? m.fields s = some f ↔ f ∈ m.fields ∧ sameName f.name s = true :=
    find?_sameName_eq_some_iff (names_of_ofType built)
  have column : (m.fields.find? fun f => sameName f.column s) = some f ↔
      f ∈ m.fields ∧ sameName f.column s = true :=
    find?_sameName_eq_some_iff (distinct_of_ofType built)
  have unnamed : named? m.fields s = none ↔ ∀ g ∈ m.fields, sameName g.name s = false := by
    simp [named?]
  rw [field?_eq built, Option.or_eq_some_iff, name, column, unnamed, Designates, and_or_left,
    and_left_comm, and_comm (a := sameName f.column s = true)]

theorem field?_eq_none_iff {s : String} :
    m.field? s = none ↔
      ∀ f ∈ m.fields, sameName f.name s = false ∧ sameName f.column s = false := by
  rw [field?_eq built, Option.or_eq_none_iff, named?, List.find?_eq_none, List.find?_eq_none]
  simp only [Bool.not_eq_true, ← forall₂_and]

end

/-- A record type has a mapping exactly if it is in order. The fields of the mapping are those that
are declared, its identity is the field that is declared or called `id`, and whatever the name, the
field that it belongs to is found, if there is one. So each field is found under its name, and under
its column where that is not the name of another field. -/
theorem ofType_resolves (t : RecordType) :
    ((∃ m, ofType t = .ok m) ↔ t.InOrder) ∧
      ∀ m, ofType t = .ok m →
        m.fields.map MappedField.declaration = t.fields ∧
          (∀ i, m.identity = some i ↔
            i ∈ m.fields ∧ sameName i.name (t.identity.getD "id") = true) ∧
          (∀ s f, m.field? s = some f ↔ m.Designates s f) ∧
          (∀ s, m.field? s = none ↔
            ∀ f ∈ m.fields, sameName f.name s = false ∧ sameName f.column s = false) ∧
          ∀ f ∈ m.fields, ∀ s,
            (sameName f.name s = true → m.field? s = some f) ∧
              (sameName f.column s = true →
                ∃ g, m.field? s = some g ∧ (g = f ∨ sameName g.name s = true)) := by
  refine ⟨⟨fun ⟨m, built⟩ => (ofType_eq_ok_iff.1 built).1,
    fun order => ⟨_, ofType_eq_ok_iff.2 ⟨order, rfl⟩⟩⟩, fun m built => ⟨?_, fun i => ?_,
    fun s f => field?_eq_some_iff built, fun s => field?_eq_none_iff built, fun f hf s =>
    ⟨fun same => (field?_eq_some_iff built).2 ⟨hf, .inl same⟩, fun same => ?_⟩⟩⟩
  · rw [(eq_of_ofType built).2.1, map_declaration_numberFields]
  · have own := names_of_ofType built
    obtain ⟨-, rfl⟩ := ofType_eq_ok_iff.1 built
    exact find?_sameName_eq_some_iff own
  · cases found : m.field? s with
    | none =>
      have free := ((field?_eq_none_iff built).1 found f hf).2
      exact absurd (free.symm.trans same) Bool.false_ne_true
    | some g =>
      obtain ⟨hg, called | ⟨column, -⟩⟩ := (field?_eq_some_iff built).1 found
      · exact ⟨g, rfl, .inr called⟩
      · have both := (find?_sameName_eq_some_iff (distinct_of_ofType built)).2 ⟨hg, column⟩
        rw [(find?_sameName_eq_some_iff (distinct_of_ofType built)).2 ⟨hf, same⟩] at both
        exact ⟨g, rfl, .inl (Option.some.inj both).symm⟩

/-- A type with two fields whose columns are each other's names. -/
def passages : RecordType where
  key := 0
  typeName := "Passage"
  table := "passages"
  schema := none
  identity := some "Key"
  fields :=
    [⟨"key", "id", .scalar (.integer .signed64), true⟩,
      ⟨"entry", "exit", .optional (.scalar .date), false⟩,
      ⟨"exit", "ENTRY", .optional (.scalar .date), false⟩]

/-- The names are found before the columns, in any case of letters. -/
theorem ofType_resolves_passages :
    passages.InOrder ∧ ∃ m, ofType passages = .ok m ∧
      (m.field? "Entry").map MappedField.column = some "exit" ∧
      (m.field? "EXIT").map MappedField.column = some "ENTRY" ∧
      m.field? "ID" = m.identity ∧ m.field? "passages" = none := by
  obtain ⟨order, resolves⟩ := ofType_resolves passages
  obtain ⟨-, identity, found, absent, -⟩ := resolves _ rfl
  refine ⟨order.1 ⟨_, rfl⟩, _, rfl, ?_, ?_, ?_, (absent "passages").2 (by decide)⟩
  · rw [(found "Entry" ⟨passages.fields[1], 1⟩).2 ⟨by simp [numberFields, passages], .inl rfl⟩]
    rfl
  · rw [(found "EXIT" ⟨passages.fields[2], 2⟩).2 ⟨by simp [numberFields, passages], .inl rfl⟩]
    rfl
  · have here : (⟨passages.fields[0], 0⟩ : MappedField) ∈ numberFields 0 passages.fields := by
      simp [numberFields, passages]
    rw [(found "ID" ⟨passages.fields[0], 0⟩).2 ⟨here, .inr ⟨rfl, by decide⟩⟩,
      (identity ⟨passages.fields[0], 0⟩).2 ⟨here, rfl⟩]

end Mapping

end DataMapper
