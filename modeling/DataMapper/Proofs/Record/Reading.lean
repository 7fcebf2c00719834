import DataMapper.Proofs.Field.Assignment
import DataMapper.Record.Mapping
import Mathlib.Data.List.Pairwise

/-!
# Records read back from rows

What is bound for the fields of a record can be read from a row into any other record of its type:
every field takes over the value of the original. Fields are read one after the other, and fields
that share a localized text are left with what the last of them reads.

## Main definitions

* `Record.Fits` — a record of a type, whose localized texts are in a store.
* `Offered` — a row that holds the value of a field.
* `Record.Overwrites` — a field that writes to what another one has taken over.
* `Reading` — what reading some fields leaves behind.
-/

namespace DataMapper

open Text

/-! ## Names -/

/-- Where no two names are the same, the search for a name finds what has it. -/
theorem find?_sameName_eq_some_iff {α : Type} {name : α → String} {xs : List α}
    (apart : xs.Pairwise fun x y => sameName (name x) (name y) = false) {s : String} {x : α} :
    (xs.find? fun y => sameName (name y) s) = some x ↔ x ∈ xs ∧ sameName (name x) s = true := by
  constructor
  · intro found
    exact ⟨List.mem_of_find?_eq_some found,
      List.find?_some (p := fun y => sameName (name y) s) found⟩
  · rintro ⟨here, same⟩
    induction xs with
    | nil => cases here
    | cons y ys ih =>
      obtain ⟨first, rest⟩ := List.pairwise_cons.1 apart
      rw [List.find?_cons]
      rcases List.mem_cons.1 here with rfl | behind
      · rw [same]
      · have other : sameName (name y) s = false := by
          by_contra like
          rw [sameName_comm] at same
          have twice := sameName_trans (by simpa using like) same
          exact Bool.false_ne_true ((first x behind).symm.trans twice)
        rw [other]
        exact ih rest behind

/-! ## Mapped fields -/

theorem length_numberFields (k : Nat) (ds : List FieldDeclaration) :
    (numberFields k ds).length = ds.length := by
  induction ds generalizing k with
  | nil => rfl
  | cons d ds ih => simp [numberFields, ih]

theorem map_declaration_numberFields (k : Nat) (ds : List FieldDeclaration) :
    (numberFields k ds).map MappedField.declaration = ds := by
  induction ds generalizing k with
  | nil => rfl
  | cons d ds ih => simp [numberFields, ih]

theorem declared_of_mem_numberFields {k : Nat} {ds : List FieldDeclaration} {f : MappedField}
    (h : f ∈ numberFields k ds) : ∃ i, f.index = k + i ∧ ds[i]? = some f.declaration := by
  induction ds generalizing k with
  | nil => cases h
  | cons d ds ih =>
    rcases List.mem_cons.1 h with rfl | h
    · exact ⟨0, rfl, rfl⟩
    · obtain ⟨i, index, declared⟩ := ih h
      exact ⟨i + 1, by rw [index]; omega, declared⟩

theorem sorted_numberFields (k : Nat) (ds : List FieldDeclaration) :
    (numberFields k ds).Pairwise fun f g => f.index < g.index := by
  induction ds generalizing k with
  | nil => exact .nil
  | cons d ds ih =>
    refine .cons (fun f hf => ?_) (ih (k + 1))
    obtain ⟨i, index, -⟩ := declared_of_mem_numberFields hf
    simp only [index]
    omega

/-- Two declarations share neither their name nor their column. -/
def FieldDeclaration.Apart (d e : FieldDeclaration) : Prop :=
  sameName d.name e.name = false ∧ sameName d.column e.column = false

namespace Mapping

theorem checkNames_cons {typeName : String} {before ds : List FieldDeclaration}
    {d : FieldDeclaration} :
    checkNames typeName before (d :: ds) = .ok () ↔
      (∀ e ∈ before, e.Apart d) ∧ checkNames typeName (before ++ [d]) ds = .ok () := by
  rw [checkNames]
  split
  · next taken =>
    obtain ⟨e, he, same⟩ := List.any_eq_true.1 taken
    refine iff_of_false (fun ok => by cases ok) fun both => ?_
    exact Bool.false_ne_true ((both.1 e he).1.symm.trans same)
  · next free =>
    split
    · next e found =>
      refine iff_of_false (fun ok => by cases ok) fun both => ?_
      exact Bool.false_ne_true ((both.1 e (List.mem_of_find?_eq_some found)).2.symm.trans
        (List.find?_some (p := fun e : FieldDeclaration => sameName e.column d.column) found))
    · next none =>
      refine (and_iff_right fun e he => ⟨?_, ?_⟩).symm
      · simpa using List.any_eq_false.1 (Bool.eq_false_iff.2 free) e he
      · simpa using List.find?_eq_none.1 none e he

/-- Declarations pass when no two of them share a name or a column. -/
theorem checkNames_eq_ok_iff {typeName : String} {before ds : List FieldDeclaration}
    (apart : before.Pairwise FieldDeclaration.Apart) :
    checkNames typeName before ds = .ok () ↔ (before ++ ds).Pairwise FieldDeclaration.Apart := by
  induction ds generalizing before with
  | nil => simp [checkNames, apart]
  | cons d ds ih =>
    have joined : before ++ d :: ds = (before ++ [d]) ++ ds := by simp
    have first : (before ++ [d]).Pairwise FieldDeclaration.Apart ↔ ∀ e ∈ before, e.Apart d := by
      simp [List.pairwise_append, apart]
    rw [checkNames_cons, joined]
    constructor
    · rintro ⟨here, rest⟩
      exact (ih (first.2 here)).1 rest
    · intro all
      have here := (List.pairwise_append.1 all).1
      exact ⟨first.1 here, (ih here).2 all⟩

theorem findIdentity_eq_ok_iff {t : RecordType} {fields : List MappedField}
    {found : Option MappedField} :
    findIdentity t fields = .ok found ↔
      named? fields (t.identity.getD "id") = found ∧
        (t.identity.isSome = true → found.isSome = true) := by
  unfold findIdentity
  cases t.identity with
  | none => simp
  | some name =>
    cases named : named? fields name with
    | none =>
      simp only [named, Option.getD_some]
      refine iff_of_false (fun ok => by cases ok) ?_
      rintro ⟨rfl, there⟩
      exact Bool.false_ne_true (there rfl)
    | some f => cases found <;> simp [named]

/-- What is checked, one after the other. -/
theorem ofType_eq_ok_iff_checks {t : RecordType} {m : Mapping} :
    ofType t = .ok m ↔
      isBlankText t.table = false ∧ t.fields ≠ [] ∧ checkNames t.typeName [] t.fields = .ok () ∧
        ∃ found, findIdentity t (numberFields 0 t.fields) = .ok found ∧
          (∀ i, found = some i → i.type.isInteger = true) ∧
          m = ⟨t, numberFields 0 t.fields, found⟩ := by
  unfold ofType
  cases blank : isBlankText t.table with
  | true => simp
  | false =>
    by_cases empty : t.fields = []
    · simp [empty]
    · cases checked : checkNames t.typeName [] t.fields with
      | error fault => simp [empty]
      | ok _ =>
        cases identity : findIdentity t (numberFields 0 t.fields) with
        | error fault => simp [empty, identity]
        | ok found =>
          cases found with
          | none => simpa [empty, identity] using eq_comm
          | some i =>
            cases whole : i.type.isInteger with
            | true => simpa [empty, identity, whole] using eq_comm
            | false => simp [empty, identity, whole]

theorem eq_of_ofType {t : RecordType} {m : Mapping} (h : ofType t = .ok m) :
    m.type = t ∧ m.fields = numberFields 0 t.fields ∧
      checkNames t.typeName [] t.fields = .ok () := by
  obtain ⟨-, -, checked, -, -, -, rfl⟩ := ofType_eq_ok_iff_checks.1 h
  exact ⟨rfl, rfl, checked⟩

section

variable {t : RecordType} {m : Mapping} (built : ofType t = .ok m)
include built

theorem declared_of_ofType {f : MappedField} (hf : f ∈ m.fields) :
    t.fields[f.index]? = some f.declaration := by
  obtain ⟨-, fields, -⟩ := eq_of_ofType built
  obtain ⟨i, index, found⟩ := declared_of_mem_numberFields (fields ▸ hf)
  rwa [index, Nat.zero_add]

theorem sorted_of_ofType : m.fields.Pairwise fun f g => f.index < g.index := by
  obtain ⟨-, fields, -⟩ := eq_of_ofType built
  rw [fields]
  exact sorted_numberFields 0 t.fields

/-- No two fields have the same column. -/
theorem distinct_of_ofType :
    m.fields.Pairwise fun f g => sameName f.column g.column = false := by
  obtain ⟨-, fields, checked⟩ := eq_of_ofType built
  have columns := ((checkNames_eq_ok_iff .nil).1 checked).imp And.right
  rw [← map_declaration_numberFields 0 t.fields, ← fields] at columns
  exact List.pairwise_map.1 columns

end

end Mapping

/-! ## Cells -/

/-- A row with one cell for each field finds the cell of every field. -/
theorem Row.get?_of_perm {row : Row} {fs : List MappedField} {name : MappedField → String}
    {value : MappedField → Value} {extra : List (String × Value)}
    (distinct : fs.Pairwise fun f g => sameName f.column g.column = false)
    (cells : row.cells.Perm (fs.map (fun f => (name f, value f)) ++ extra))
    (named : ∀ f ∈ fs, sameName (name f) f.column = true)
    (other : ∀ c ∈ extra, ∀ f ∈ fs, sameName c.1 f.column = false) {f : MappedField}
    (hf : f ∈ fs) : row.get? f.column = some (value f) := by
  have here : (name f, value f) ∈ row.cells :=
    cells.mem_iff.2 (List.mem_append_left _ (List.mem_map_of_mem hf))
  have only : ∀ c ∈ row.cells, sameName c.1 f.column = true → c.2 = value f := by
    intro c hc same
    rcases List.mem_append.1 (cells.mem_iff.1 hc) with own | foreign
    · obtain ⟨g, hg, rfl⟩ := List.mem_map.1 own
      have column : sameName f.column g.column = true := by
        rw [sameName_comm]
        refine sameName_trans ?_ same
        rw [sameName_comm]
        exact named g hg
      have equal : f = g := by
        by_contra apart
        have symm : Std.Symm fun f g : MappedField => sameName f.column g.column = false :=
          ⟨fun f g h => (sameName_comm g.column f.column).trans h⟩
        rw [distinct.forall hf hg apart] at column
        cases column
      rw [equal]
    · rw [other c foreign f hf] at same
      cases same
  obtain ⟨c, found⟩ := Option.isSome_iff_exists.1
    (List.find?_isSome.2 ⟨_, here, named f hf⟩ :
      (row.cells.find? fun c => sameName c.1 f.column).isSome = true)
  have same : sameName c.1 f.column = true :=
    List.find?_some (p := fun c : String × Value => sameName c.1 f.column) found
  rw [get?, found, Option.map_some, only c (List.mem_of_find?_eq_some found) same]

/-! ## Records of a type -/

/-- A record of a type, whose localized texts are in the store. -/
structure Record.Fits (st : TextStore) (t : RecordType) (r : Record) : Prop where
  type : r.type = t
  shapes : r.fields.map Field.shape = t.fields.map FieldDeclaration.shape
  valid : ∀ f ∈ r.fields, ∀ k, f.handle? = some k → st.Valid k

namespace Record

/-- The instance that is written to when the field at an index is assigned to. -/
def target? (r : Record) (i : Nat) : Option LocalizedString := (r.fields[i]?).bind Field.target?

variable {st : TextStore} {t : RecordType} {r : Record}

theorem Fits.field (h : r.Fits st t) {i : Nat} {d : FieldDeclaration}
    (declared : t.fields[i]? = some d) : ∃ f, r.fields[i]? = some f ∧ f.shape = d.shape := by
  have shapes := congrArg (·[i]?) h.shapes
  simp only [List.getElem?_map, declared, Option.map_some] at shapes
  exact Option.map_eq_some_iff.1 shapes

theorem Fits.valid_target (h : r.Fits st t) {i : Nat} {k : LocalizedString}
    (target : r.target? i = some k) : st.Valid k := by
  obtain ⟨f, found, writes⟩ := Option.bind_eq_some_iff.1 target
  exact h.valid f (List.mem_of_getElem? found) k (FieldShape.handle?_of_target? writes)

theorem get_of_getElem? {i : Nat} {f : Field} (found : r.fields[i]? = some f) :
    r.get st i = f.toValue st := by
  simp [get, found, Value.ofOption]

end Record

/-! ## One field -/

/-- The row holds the value of a record for a field, and the field may be given that value. -/
structure Offered (row : Row) (st₀ : TextStore) (src : Record) (f : MappedField) : Prop where
  cell : row.get? f.column = some (src.get st₀ f.index)
  notNull : ((src.get st₀ f.index).isNull && f.notNull) = false
  now : (src.get st₀ f.index).isServerNow = false
  wide : f.declaration.shape.scalarType ≠ .single

/-- The field `g` is behind the field `f` and writes to the localized text that it shares with `f`,
where both take over something else than null. -/
def Record.Overwrites (r : Record) (v : Nat → Value) (g f : MappedField) : Prop :=
  f.index < g.index ∧ (v f.index).isNull = false ∧ (v g.index).isNull = false ∧
    ∃ k, r.target? f.index = some k ∧ r.target? g.index = some k

/-- No other one of the fields writes to the localized text that a field has taken over. -/
def Record.Intact (r : Record) (fs : List MappedField) (v : Nat → Value) (f : MappedField) : Prop :=
  ∀ g ∈ fs, ¬ r.Overwrites v g f

theorem Record.Overwrites.trans {r : Record} {v : Nat → Value} {f g h : MappedField}
    (last : r.Overwrites v h g) (first : r.Overwrites v g f) : r.Overwrites v h f := by
  obtain ⟨before, own, -, k, leads, writes⟩ := first
  obtain ⟨behind, -, other, l, same, target⟩ := last
  obtain rfl := Option.some.inj (writes.symm.trans same)
  exact ⟨Nat.lt_trans before behind, own, other, k, leads, target⟩

/-- There is a last one of the fields that write to what a field has taken over. -/
theorem Record.exists_intact (r : Record) {fs : List MappedField} (v : Nat → Value) {bound : Nat}
    (inside : ∀ f ∈ fs, f.index < bound) {f : MappedField} (hf : f ∈ fs) :
    ∃ g ∈ fs, (g = f ∨ r.Overwrites v g f) ∧ r.Intact fs v g := by
  induction left : bound - f.index using Nat.strongRecOn generalizing f with
  | ind n ih =>
    by_cases intact : r.Intact fs v f
    · exact ⟨f, hf, .inl rfl, intact⟩
    · obtain ⟨g, hg, behind⟩ : ∃ g ∈ fs, r.Overwrites v g f := by simpa [Intact] using intact
      have nearer : bound - g.index < n := by
        have below := inside g hg
        have order := behind.1
        omega
      obtain ⟨h, hh, last, intact⟩ := ih _ nearer hg rfl
      refine ⟨h, hh, .inr ?_, intact⟩
      rcases last with rfl | further
      · exact behind
      · exact further.trans behind

/-- What reading the fields `fs` of a record `r` of type `t` leaves behind: the values `v`, but for
fields that are overwritten, which still lead to the localized text that was written to. -/
structure Reading (t : RecordType) (fs : List MappedField) (v : Nat → Value) (st : TextStore)
    (r : Record) (st' : TextStore) (r' : Record) : Prop where
  fits : r'.Fits st' t
  grows : st.instances.length ≤ st'.instances.length
  kept : ∀ k, st.Valid k → (∀ f ∈ fs, r.target? f.index = some k → (v f.index).isNull = true) →
    st'.read k = st.read k
  others : ∀ i, (∀ f ∈ fs, f.index ≠ i) → r'.fields[i]? = r.fields[i]?
  values : ∀ f ∈ fs, r.Intact fs v f → r'.get st' f.index = v f.index
  leads : ∀ f ∈ fs, ∀ k, r.target? f.index = some k → (v f.index).isNull = false →
    r'.get st' f.index = .text (k.encode st')

/-- The fields whose columns a row has. -/
def presentFields (row : Row) (fs : List MappedField) : List MappedField :=
  fs.filter fun f => (row.get? f.column).isSome

/-- Whatever a record of the type holds, the field takes over a value from the row. -/
def MappedField.TakesOver (t : RecordType) (row : Row) (f : MappedField) (v : Value) : Prop :=
  ∀ {st : TextStore} {r : Record}, r.Fits st t → ∃ g st',
    f.readRow st r row = ⟨.ok true, { r with fields := r.fields.set f.index g }, st'⟩ ∧
      g.shape = f.declaration.shape ∧ g.Takes st (r.target? f.index) v st'

section

variable {t : RecordType} {row : Row} {st₀ : TextStore} {src : Record} {f : MappedField}

/-- A field that is offered is read. -/
theorem MappedField.takesOver_of_offered (offered : Offered row st₀ src f)
    (source : src.Fits st₀ t) (declared : t.fields[f.index]? = some f.declaration) :
    f.TakesOver t row (src.get st₀ f.index) := by
  intro st r fits
  obtain ⟨cell, notNull, now, wide⟩ := offered
  obtain ⟨f₀, found₀, shape₀⟩ := source.field declared
  obtain ⟨g₀, found, shape⟩ := fits.field declared
  rw [Record.get_of_getElem? found₀] at cell notNull now ⊢
  have target : r.target? f.index = g₀.target? := by rw [Record.target?, found]; rfl
  obtain ⟨g, st', assigned, same, takes⟩ := @Field.assign_toValue st st₀ g₀ f₀
    (shape.trans shape₀.symm) (by rwa [shape]) now
    fun k writes => fits.valid_target (target.trans writes)
  have coerced : f.type.coerce (f₀.toValue st₀) = .ok (f₀.toValue st₀) := by
    have kind : f.type = f₀.shape.fieldType := by rw [shape₀]; rfl
    rw [kind]
    exact FieldShape.coerce_toValue now
  refine ⟨g, st', ?_, same.trans shape, target ▸ takes⟩
  simp [readRow, cell, readColumn, notNull, coerced, Record.set, found, assigned, Except.map]

/-- The record after one field has taken over a value. -/
theorem Record.Fits.set {st st' : TextStore} {r : Record} {v : Value} (fits : r.Fits st t)
    (declared : t.fields[f.index]? = some f.declaration) {g : Field}
    (shape : g.shape = f.declaration.shape) (takes : g.Takes st (r.target? f.index) v st') :
    Record.Fits st' t { r with fields := r.fields.set f.index g } where
  type := fits.type
  shapes := by
    obtain ⟨inside, found⟩ := List.getElem?_eq_some_iff.1 declared
    have named : f.index < (t.fields.map FieldDeclaration.shape).length := by simpa using inside
    have own : f.declaration.shape = (t.fields.map FieldDeclaration.shape)[f.index] := by
      simp [found]
    rw [List.map_set, fits.shapes, shape, own, List.set_getElem_self]
  valid h hh k found := by
    rcases List.mem_or_eq_of_mem_set hh with old | rfl
    · exact TextStore.valid_mono takes.grows (fits.valid h old k found)
    · exact (takes.handle k found).1

theorem Record.Fits.reading_nil {st : TextStore} {r : Record} (fits : r.Fits st t)
    (v : Nat → Value) : Reading t [] v st r st r where
  fits := fits
  grows := Nat.le_refl _
  kept _ _ _ := rfl
  others _ _ := rfl
  values _ hf := (List.not_mem_nil hf).elim
  leads _ hf := (List.not_mem_nil hf).elim

/-- One field has taken over a value, and then the fields behind it have been read. -/
theorem Record.Fits.reading_cons {fs : List MappedField} {v : Nat → Value}
    {st st₁ st' : TextStore} {r r' : Record} {g : Field} (fits : r.Fits st t)
    (here : t.fields[f.index]? = some f.declaration) (later : ∀ h ∈ fs, f.index < h.index)
    (takes : g.Takes st (r.target? f.index) (v f.index) st₁)
    (reading : Reading t fs v st₁ { r with fields := r.fields.set f.index g } st' r') :
    Reading t (f :: fs) v st r st' r' := by
  -- the fields behind are not touched by the first one
  have target (h : MappedField) (hh : h ∈ fs) :
      ({ r with fields := r.fields.set f.index g } : Record).target? h.index =
        r.target? h.index := by
    have apart : f.index ≠ h.index := Nat.ne_of_lt (later h hh)
    simp [Record.target?, List.getElem?_set_ne apart]
  obtain ⟨old, found, -⟩ := fits.field here
  have now : r'.get st' f.index = g.toValue st' := by
    refine Record.get_of_getElem? ?_
    rw [reading.others f.index fun e he => Nat.ne_of_gt (later e he)]
    exact List.getElem?_set_self (List.getElem?_eq_some_iff.1 found).1
  refine ⟨reading.fits, Nat.le_trans takes.grows reading.grows, ?_, ?_, ?_, ?_⟩
  · intro k valid null
    obtain ⟨first, null⟩ := List.forall_mem_cons.1 null
    rw [reading.kept k (TextStore.valid_mono takes.grows valid), takes.kept k valid first]
    intro h hh writes
    rw [target h hh] at writes
    exact null h hh writes
  · intro i apart
    obtain ⟨first, apart⟩ := List.forall_mem_cons.1 apart
    rw [reading.others i apart, List.getElem?_set_ne first]
  · refine List.forall_mem_cons.2 ⟨fun intact => ?_, fun h hh intact => ?_⟩
    · rw [now, ← takes.value]
      refine g.toValue_congr fun k leads => reading.kept k (takes.handle k leads).1 ?_
      intro e he writes
      rw [target e he] at writes
      rcases (takes.handle k leads).2 with shared | fresh
      · have own : (v f.index).isNull = false := by
          rw [← takes.value, Field.toValue_of_handle? leads]
          rfl
        by_contra filled
        exact intact e (List.mem_cons_of_mem f he)
          ⟨later e he, own, by simpa using filled, k, shared, writes⟩
      · exact absurd (fits.valid_target writes) fresh
    · refine reading.values h hh fun e he ⟨order, filled, other, k, own, writes⟩ => ?_
      rw [target h hh] at own
      rw [target e he] at writes
      exact intact e (List.mem_cons_of_mem f he) ⟨order, filled, other, k, own, writes⟩
  · refine List.forall_mem_cons.2 ⟨fun k own filled => ?_, fun h hh k own filled => ?_⟩
    · rw [now, Field.toValue_of_handle? (takes.leads k own filled)]
    · rw [← target h hh] at own
      exact reading.leads h hh k own filled

/-- Fields of which each takes over a value or has no column in the row are read from left to
right, and those whose columns are there are counted. -/
theorem readFields_takesOver {fs : List MappedField} {v : Nat → Value}
    (sorted : fs.Pairwise fun f g => f.index < g.index)
    (declared : ∀ f ∈ fs, t.fields[f.index]? = some f.declaration)
    (each : ∀ f ∈ fs, (row.get? f.column).isSome = true → f.TakesOver t row (v f.index))
    {st : TextStore} {r : Record} (fits : r.Fits st t) (copied : Nat) :
    ∃ st' r', readFields row copied r st fs =
        ⟨.ok (copied + (presentFields row fs).length), r', st'⟩ ∧
      Reading t (presentFields row fs) v st r st' r' := by
  induction fs generalizing st r copied with
  | nil => exact ⟨st, r, rfl, fits.reading_nil v⟩
  | cons f fs ih =>
    obtain ⟨later, sorted⟩ := List.pairwise_cons.1 sorted
    obtain ⟨first, each⟩ := List.forall_mem_cons.1 each
    obtain ⟨here, declared⟩ := List.forall_mem_cons.1 declared
    cases cell : row.get? f.column with
    | none =>
      obtain ⟨st', r', reads, reading⟩ := ih sorted declared each fits copied
      have fewer : presentFields row (f :: fs) = presentFields row fs :=
        List.filter_cons_of_neg (by simp [cell])
      rw [fewer]
      refine ⟨st', r', ?_, reading⟩
      rw [readFields, MappedField.readRow, cell]
      exact reads
    | some w =>
      have there : (row.get? f.column).isSome = true := by rw [cell]; rfl
      obtain ⟨g, st₁, read, shape, takes⟩ := first there fits
      obtain ⟨st', r', reads, reading⟩ :=
        ih sorted declared each (fits.set here shape takes) (copied + 1)
      have more : presentFields row (f :: fs) = f :: presentFields row fs :=
        List.filter_cons_of_pos there
      rw [more]
      refine ⟨st', r', ?_, fits.reading_cons here ?_ takes reading⟩
      · simp only [readFields, read, ↓reduceIte, reads, List.length_cons]
        rw [Nat.add_right_comm, Nat.add_assoc]
      · exact fun h hh => later h (List.mem_filter.1 hh).1

/-- Fields that are offered are all read, from left to right. -/
theorem readFields_offered {fs : List MappedField} (source : src.Fits st₀ t)
    (sorted : fs.Pairwise fun f g => f.index < g.index)
    (offered : ∀ f ∈ fs, Offered row st₀ src f)
    (declared : ∀ f ∈ fs, t.fields[f.index]? = some f.declaration) {st : TextStore} {r : Record}
    (fits : r.Fits st t) (copied : Nat) :
    ∃ st' r', readFields row copied r st fs = ⟨.ok (copied + fs.length), r', st'⟩ ∧
      Reading t fs (src.get st₀) st r st' r' := by
  have all : presentFields row fs = fs :=
    List.filter_eq_self.2 fun f hf => by rw [(offered f hf).cell]; rfl
  obtain ⟨st', r', read, reading⟩ := readFields_takesOver sorted declared
    (fun f hf _ => f.takesOver_of_offered (offered f hf) source (declared f hf)) fits copied
  rw [all] at read reading
  exact ⟨st', r', read, reading⟩

end

/-! ## Whole records -/

/-- Of a record that holds no time of the database, and no null where there must be none, every
value can be bound. A row with the bound value of every field under its column, in any order and any
spelling of ASCII letters, is read into every other record of the type: all fields are copied, and
each has the value of the original, or of the original's last field that writes to the localized
text which the two share. -/
theorem Mapping.readRow_of_bindValue {t : RecordType} {m : Mapping} (built : ofType t = .ok m)
    (wide : ∀ d ∈ t.fields, d.shape.scalarType ≠ .single) {st : TextStore} {src dst : Record}
    (source : src.Fits st t) (target : dst.Fits st t)
    (now : ∀ f ∈ m.fields, (f.rawValue st src).isServerNow = false)
    (notNull : ∀ f ∈ m.fields, f.notNull = true → (f.rawValue st src).isNull = false) :
    (∀ f ∈ m.fields, f.bindValue st src = .ok (f.rawValue st src)) ∧
      ∀ (name : MappedField → String) (extra : List (String × Value)) (row : Row),
        row.cells.Perm (m.fields.map (fun f => (name f, f.rawValue st src)) ++ extra) →
        (∀ f ∈ m.fields, sameName (name f) f.column = true) →
        (∀ c ∈ extra, ∀ f ∈ m.fields, sameName c.1 f.column = false) →
        let c := m.readRow st dst row
        c.result = .ok t.fields.length ∧ c.record.Fits c.store t ∧
          ∀ f ∈ m.fields, ∃ g ∈ m.fields, (g = f ∨ dst.Overwrites (src.get st) g f) ∧
            dst.Intact m.fields (src.get st) g ∧
            f.rawValue c.store c.record = g.rawValue st src := by
  obtain ⟨type, fields, -⟩ := eq_of_ofType built
  have declared : ∀ f ∈ m.fields, t.fields[f.index]? = some f.declaration := fun _ =>
    declared_of_ofType built
  have given : ∀ f ∈ m.fields, ((f.rawValue st src).isNull && f.notNull) = false := by
    intro f hf
    cases required : f.notNull with
    | false => exact Bool.and_false _
    | true => rw [notNull f hf required, Bool.false_and]
  refine ⟨fun f hf => if_neg (Bool.eq_false_iff.1 (given f hf)), ?_⟩
  intro name extra row cells named other
  have offered : ∀ f ∈ m.fields, Offered row st src f := fun f hf =>
    { cell := Row.get?_of_perm (distinct_of_ofType built) cells named other hf
      notNull := given f hf
      now := now f hf
      wide := wide f.declaration (List.mem_of_getElem? (declared f hf)) }
  obtain ⟨st', r', read, reading⟩ :=
    readFields_offered source (sorted_of_ofType built) offered declared target 0
  have mine : m.check dst = .ok () := if_pos (by rw [target.type, type])
  have whole : m.readRow st dst row = ⟨.ok t.fields.length, r', st'⟩ := by
    rw [readRow, mine]
    refine read.trans ?_
    rw [fields, length_numberFields, Nat.zero_add]
  intro c
  have same : c = ⟨.ok t.fields.length, r', st'⟩ := whole
  rw [same]
  refine ⟨rfl, reading.fits, fun f hf => ?_⟩
  have inside : ∀ f ∈ m.fields, f.index < t.fields.length := fun f hf =>
    (List.getElem?_eq_some_iff.1 (declared f hf)).1
  obtain ⟨g, hg, last, intact⟩ := dst.exists_intact (src.get st) inside hf
  refine ⟨g, hg, last, intact, ?_⟩
  have value : r'.get st' g.index = src.get st g.index := reading.values g hg intact
  rcases last with rfl | ⟨-, own, other, k, leads, writes⟩
  · exact value
  · exact (reading.leads f hf k leads own).trans
      ((reading.leads g hg k writes other).symm.trans value)

/-! ## Fixed records -/

/-- A type of articles with an identity, a title that may be absent and the date of a change. -/
def articles : RecordType where
  key := 0
  typeName := "Article"
  table := "articles"
  schema := none
  identity := none
  fields :=
    [⟨"id", "id", .scalar (.integer .signed64), true⟩,
      ⟨"title", "title", .optional (.scalar .localized), false⟩,
      ⟨"changed", "changed_at", .serverTime (.scalar .date), true⟩]

def articleStore : TextStore :=
  ⟨[.insert .empty "en" "a=b", .insert .empty "de" "x"]⟩

def article : Record :=
  ⟨articles,
    [⟨.scalar (.integer .signed64), (⟨7, by decide⟩ : IntegerKind.signed64.Range)⟩,
      ⟨.optional (.scalar .localized), some (⟨0⟩ : LocalizedString)⟩,
      ⟨.serverTime (.scalar .date), ServerTime.literal Calendar.Date.epoch⟩]⟩

def otherArticle : Record :=
  ⟨articles,
    [⟨.scalar (.integer .signed64), (⟨0, by decide⟩ : IntegerKind.signed64.Range)⟩,
      ⟨.optional (.scalar .localized), some (⟨1⟩ : LocalizedString)⟩,
      ⟨.serverTime (.scalar .date), ServerTime.now⟩]⟩

/-- The cells of an article in another order, with other letters and one column too many. -/
def articleRow : Row :=
  ⟨[("note", .null), ("Changed_At", .date Calendar.Date.epoch), ("TITLE", .text "en=a\\=b"),
    ("id", .int 7)]⟩

theorem fits_article : article.Fits articleStore articles where
  type := rfl
  shapes := rfl
  valid f hf k found := by
    simp only [article, List.mem_cons, List.not_mem_nil, or_false] at hf
    rcases hf with rfl | rfl | rfl <;> cases found
    exact Nat.zero_lt_two

theorem fits_otherArticle : otherArticle.Fits articleStore articles where
  type := rfl
  shapes := rfl
  valid f hf k found := by
    simp only [otherArticle, List.mem_cons, List.not_mem_nil, or_false] at hf
    rcases hf with rfl | rfl | rfl <;> cases found
    exact Nat.one_lt_two

/-- The article is read into the other one, which has no two localized texts. -/
theorem readRow_article :
    ∃ m, Mapping.ofType articles = .ok m ∧
      let c := m.readRow articleStore otherArticle articleRow
      c.result = .ok 3 ∧
        ∀ f ∈ m.fields, f.rawValue c.store c.record = f.rawValue articleStore article := by
  refine ⟨_, rfl, ?_⟩
  have wide : ∀ d ∈ articles.fields, d.shape.scalarType ≠ .single := by
    simp [articles, FieldShape.scalarType]
  obtain ⟨-, read⟩ := @Mapping.readRow_of_bindValue articles _ rfl wide articleStore article
    otherArticle fits_article fits_otherArticle (by decide) (by decide)
  have names : ∀ f ∈ numberFields 0 articles.fields,
      sameName (["id", "TITLE", "Changed_At"].getD f.index "") f.column = true := by decide
  obtain ⟨result, -, values⟩ := read (fun f => ["id", "TITLE", "Changed_At"].getD f.index "")
    [("note", .null)] articleRow (List.reverse_perm articleRow.cells).symm names (by decide)
  refine ⟨result, fun f hf => ?_⟩
  obtain ⟨g, -, rfl | ⟨order, -, -, k, own, writes⟩, -, same⟩ := values f hf
  · exact same
  have title : ∀ i, otherArticle.target? i = some k → i = 1
    | 0, h | 2, h | _ + 3, h => by cases h
    | 1, _ => rfl
  rw [title _ own, title _ writes] at order
  exact absurd order (by decide)

/-! ## Letters and shared texts -/

/-- A type with a column outside of ASCII. -/
def cafes : RecordType where
  key := 0
  typeName := "Cafe"
  table := "t"
  schema := none
  identity := none
  fields := [⟨"é", "é", .scalar (.integer .signed64), false⟩]

def cafe (n : IntegerKind.signed64.Range) : Record := ⟨cafes, [⟨.scalar (.integer .signed64), n⟩]⟩

/-- A type with two localized texts. -/
def signs : RecordType where
  key := 1
  typeName := "Sign"
  table := "signs"
  schema := none
  identity := none
  fields :=
    [⟨"front", "front", .scalar .localized, false⟩, ⟨"back", "back", .scalar .localized, false⟩]

def sign (front back : LocalizedString) : Record :=
  ⟨signs, [⟨.scalar .localized, front⟩, ⟨.scalar .localized, back⟩]⟩

def signStore : TextStore := ⟨[.insert .empty "en" "in", .insert .empty "en" "out", .empty]⟩

theorem fits_cafe (n : IntegerKind.signed64.Range) : (cafe n).Fits .empty cafes where
  type := rfl
  shapes := rfl
  valid f hf k found := by
    obtain rfl := List.mem_singleton.1 hf
    cases found

theorem fits_sign {front back : LocalizedString} (hf : signStore.Valid front)
    (hb : signStore.Valid back) : (sign front back).Fits signStore signs where
  type := rfl
  shapes := rfl
  valid f h k found := by
    simp only [sign, List.mem_cons, List.not_mem_nil, or_false] at h
    rcases h with rfl | rfl <;> cases found
    · exact hf
    · exact hb

/-- A column is not found under another case of a letter outside of ASCII; and of two fields that
share a localized text the first one is left with what is read for the second one. -/
theorem readRow_not_original :
    (∃ m, Mapping.ofType cafes = .ok m ∧ (cafe ⟨5, by decide⟩).Fits .empty cafes ∧
      (cafe ⟨0, by decide⟩).Fits .empty cafes ∧ m.fields.map MappedField.column = ["é"] ∧
      "É".toList.flatMap lower = "é".toList.flatMap lower ∧
      let c := m.readRow .empty (cafe ⟨0, by decide⟩) ⟨[("É", .int 5)]⟩
      c.result = .ok 0 ∧ c.record.get c.store 0 ≠ (cafe ⟨5, by decide⟩).get .empty 0) ∧
    ∃ m, Mapping.ofType signs = .ok m ∧ (sign ⟨0⟩ ⟨1⟩).Fits signStore signs ∧
      (sign ⟨2⟩ ⟨2⟩).Fits signStore signs ∧
      let c := m.readRow signStore (sign ⟨2⟩ ⟨2⟩)
        ⟨[("front", .text "en=in"), ("back", .text "en=out")]⟩
      (sign ⟨0⟩ ⟨1⟩).get signStore 0 = .text "en=in" ∧
        (sign ⟨0⟩ ⟨1⟩).get signStore 1 = .text "en=out" ∧ c.result = .ok 2 ∧
        c.record.get c.store 0 = .text "en=out" := by
  constructor
  · refine ⟨_, rfl, fits_cafe _, fits_cafe _, rfl, by decide, rfl, ?_⟩
    intro same
    cases same
  · exact ⟨_, rfl, fits_sign (Nat.succ_pos 2) (Nat.lt_of_sub_eq_succ rfl),
      fits_sign (Nat.lt_succ_self 2) (Nat.lt_succ_self 2), rfl, rfl, rfl, rfl⟩

end DataMapper
