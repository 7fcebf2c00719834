import DataMapper.Proofs.Field.Holding
import DataMapper.Proofs.Record.Reading
import DataMapper.Record.Statements

/-!
# Fields written back

After a record has been inserted, its identity and the fields that the database has filled are
written back into it. None of these leads to a localized text, so everything else that the record
holds stays as it is.

## Main definitions

* `Mapping.nowFields` — the fields that are left to the clock of the database.
* `Mapping.Carries` — a row with cells for these fields and no others.
* `Record.Rewritten` — a record that was written to at some places only.

## Main statements

* `Mapping.stamped_of_insertStatement` — what is noted for reading back.
* `Mapping.setIdentity_rewritten`, `Mapping.readRow_rewritten` — what is written back.
-/

namespace DataMapper

/-! ## Places that are written to -/

/-- A record of a type that has been written to at some places only, and no localized text with
it. -/
structure Record.Rewritten (t : RecordType) (places : Nat → Prop) (st : TextStore) (r : Record)
    (st' : TextStore) (r' : Record) : Prop where
  fits : r'.Fits st' t
  grows : st.instances.length ≤ st'.instances.length
  kept : ∀ k, st.Valid k → st'.read k = st.read k
  others : ∀ i, ¬ places i → r'.fields[i]? = r.fields[i]?

namespace Record.Rewritten

variable {t : RecordType} {places places' : Nat → Prop} {st st₁ st' : TextStore}
  {r r₁ r' : Record} {i : Nat}

theorem refl (fits : r.Fits st t) : Rewritten t places st r st r :=
  ⟨fits, Nat.le_refl _, fun _ _ => rfl, fun _ _ => rfl⟩

theorem trans (h : Rewritten t places st r st₁ r₁) (g : Rewritten t places st₁ r₁ st' r') :
    Rewritten t places st r st' r' where
  fits := g.fits
  grows := Nat.le_trans h.grows g.grows
  kept k valid := (g.kept k (TextStore.valid_mono h.grows valid)).trans (h.kept k valid)
  others i apart := (g.others i apart).trans (h.others i apart)

theorem mono (h : Rewritten t places st r st' r') (wider : ∀ i, places i → places' i) :
    Rewritten t places' st r st' r' :=
  { h with others := fun i apart => h.others i fun inside => apart (wider i inside) }

theorem target?_eq (h : Rewritten t places st r st' r') (apart : ¬ places i) :
    r'.target? i = r.target? i := by
  rw [target?, h.others i apart, target?]

/-- All other fields have the values that they had. -/
theorem get_eq (h : Rewritten t places st r st' r') (fits : r.Fits st t) (apart : ¬ places i) :
    r'.get st' i = r.get st i := by
  rw [get, h.others i apart, get]
  cases found : r.fields[i]? with
  | none => rfl
  | some f =>
    refine congrArg (fun v => Value.ofOption (some v)) (f.toValue_congr fun k leads => ?_)
    exact h.kept k (fits.valid f (List.mem_of_getElem? found) k leads)

end Record.Rewritten

section

variable {t : RecordType} {st : TextStore} {r : Record} {f : MappedField} {row : Row}

/-- An instance is written to only through a field that holds its text. -/
theorem Record.target?_eq_none (st : TextStore) {i : Nat} (plain : ∀ s, r.get st i ≠ .text s) :
    r.target? i = none := by
  unfold target?
  cases found : r.fields[i]? with
  | none => rfl
  | some f => exact Field.target?_eq_none fun s => get_of_getElem? found ▸ plain s

theorem MappedField.bindValue_eq {v : Value} (h : f.bindValue st r = .ok v) :
    v = f.rawValue st r := by
  unfold bindValue at h
  dsimp only at h
  split at h <;> cases h
  rfl

/-- A column that is read into a field without a localized text. -/
theorem MappedField.readColumn_rewritten {v : Value} (fits : r.Fits st t)
    (declared : t.fields[f.index]? = some f.declaration) (target : r.target? f.index = none)
    (h : (f.readColumn st r v).result = .ok ()) :
    let c := f.readColumn st r v
    Record.Rewritten t (· = f.index) st r c.store c.record ∧
      ∃ u, f.type.coerce v = .ok u ∧
        f.rawValue c.store c.record = f.declaration.shape.scalarType.held u := by
  obtain ⟨g₀, found, shape⟩ := fits.field declared
  have own : g₀.target? = none := by rwa [Record.target?, found] at target
  revert h
  unfold readColumn
  dsimp only
  split
  · rintro ⟨⟩
  · split
    · rintro ⟨⟩
    · next u coerced =>
      split
      · rintro ⟨⟩
      · next r' st' written =>
        rintro -
        rw [Record.set, found] at written
        obtain ⟨⟨g, st₁⟩, assigned, same⟩ := Except.exists_of_map written
        cases same
        obtain ⟨same, takes⟩ :=
          Field.takes_of_assign (fun k target => by rw [own] at target; cases target) assigned
        rw [shape] at same
        rw [shape, own] at takes
        have inside := (List.getElem?_eq_some_iff.1 found).1
        refine ⟨⟨fits.set declared same (target ▸ takes), takes.grows, ?_, ?_⟩, u, coerced, ?_⟩
        · exact fun k valid => takes.kept k valid fun target => (by cases target)
        · exact fun i apart => List.getElem?_set_ne (Ne.symm apart)
        · exact (Record.get_of_getElem? (List.getElem?_set_self inside)).trans takes.value

/-- The fields whose columns a row has are written to, where no localized text is in the way. -/
theorem readFields_rewritten {fs : List MappedField} {copied n : Nat}
    (sorted : fs.Pairwise fun f g => f.index < g.index)
    (declared : ∀ f ∈ fs, t.fields[f.index]? = some f.declaration) (fits : r.Fits st t)
    (target : ∀ f ∈ fs, (row.get? f.column).isSome = true → r.target? f.index = none)
    (h : (readFields row copied r st fs).result = .ok n) :
    let c := readFields row copied r st fs
    Record.Rewritten t (fun i => ∃ f ∈ fs, f.index = i ∧ (row.get? f.column).isSome = true)
        st r c.store c.record ∧
      ∀ f ∈ fs, ∀ v, row.get? f.column = some v → ∃ u, f.type.coerce v = .ok u ∧
        f.rawValue c.store c.record = f.declaration.shape.scalarType.held u := by
  induction fs generalizing st r copied with
  | nil => exact ⟨.refl fits, fun _ hf => (List.not_mem_nil hf).elim⟩
  | cons f fs ih =>
    obtain ⟨later, sorted⟩ := List.pairwise_cons.1 sorted
    obtain ⟨here, declared⟩ := List.forall_mem_cons.1 declared
    obtain ⟨own, target⟩ := List.forall_mem_cons.1 target
    -- the fields behind `f` do not touch it
    have apart : ¬ ∃ g ∈ fs, g.index = f.index ∧ (row.get? g.column).isSome = true := by
      rintro ⟨g, hg, same, -⟩
      exact Nat.ne_of_gt (later g hg) same
    have behind (j : Nat) (place : ∃ g ∈ fs, g.index = j ∧ (row.get? g.column).isSome = true) :
        ∃ g ∈ f :: fs, g.index = j ∧ (row.get? g.column).isSome = true := by
      obtain ⟨g, hg, place⟩ := place
      exact ⟨g, List.mem_cons_of_mem f hg, place⟩
    cases cell : row.get? f.column with
    | none =>
      have skip : readFields row copied r st (f :: fs) = readFields row copied r st fs := by
        simp only [readFields, MappedField.readRow, cell, Bool.false_eq_true, if_false]
      rw [skip] at h ⊢
      obtain ⟨rest, values⟩ := ih sorted declared fits target h
      refine ⟨rest.mono behind, List.forall_mem_cons.2 ⟨fun v found => ?_, values⟩⟩
      rw [cell] at found
      cases found
    | some v =>
      cases read : (f.readColumn st r v).result with
      | error e =>
        simp only [readFields, MappedField.readRow, cell, read, Except.map] at h
        cases h
      | ok =>
        have next : readFields row copied r st (f :: fs) =
            readFields row (copied + 1) (f.readColumn st r v).record (f.readColumn st r v).store
              fs := by
          simp only [readFields, MappedField.readRow, cell, read, Except.map, if_true]
        rw [next] at h ⊢
        obtain ⟨first, u, coerced, value⟩ :=
          f.readColumn_rewritten fits here (own (by rw [cell]; rfl)) read
        have free (g : MappedField) (hg : g ∈ fs) (has : (row.get? g.column).isSome = true) :=
          (first.target?_eq (Nat.ne_of_gt (later g hg))).trans (target g hg has)
        obtain ⟨rest, values⟩ := ih sorted declared first.fits free h
        refine ⟨(first.mono ?_).trans (rest.mono behind), List.forall_mem_cons.2 ⟨?_, values⟩⟩
        · rintro _ rfl
          exact ⟨f, List.mem_cons_self, rfl, by rw [cell]; rfl⟩
        · intro v' found
          obtain rfl : v = v' := Option.some.inj (cell.symm.trans found)
          exact ⟨u, coerced, (rest.get_eq first.fits apart).trans value⟩

end

/-! ## Through a mapping -/

namespace Mapping

/-- The fields that are left to the clock of the database. -/
def nowFields (m : Mapping) (st : TextStore) (r : Record) : List MappedField :=
  m.fields.filter fun f => (f.rawValue st r).isServerNow

/-- The row has cells for the columns of these fields, and for no other columns. -/
def Carries (m : Mapping) (fs : List MappedField) (row : Row) : Prop :=
  ∀ f ∈ m.fields, (row.get? f.column).isSome = true ↔ f ∈ fs

/-- No number or a number: what can stand in the place of an identity. -/
def IsIdentity (v : Value) : Prop := v = .null ∨ ∃ n, v = .int n

/-- No number or a negative one: the record has not been stored. -/
def IsUnassigned (v : Value) : Prop := v = .null ∨ ∃ n, v = .int n ∧ n.toInt < 0

theorem IsIdentity.assigned_or {v : Value} (number : IsIdentity v) :
    (∃ n, v = .int n ∧ 0 ≤ n.toInt) ∨ IsUnassigned v := by
  rcases number with null | ⟨n, int⟩
  · exact .inr (.inl null)
  · rcases Int.lt_or_le n.toInt 0 with negative | nonneg
    · exact .inr (.inr ⟨n, int, negative⟩)
    · exact .inl ⟨n, int, nonneg⟩

/-- The record `r` has been given an identity, and a row has been read into it: every field that was
left to the clock of the database has what the row holds for it, as its type holds it, no field is
left to the clock any more, and all others but the identity are as they were. -/
structure Filled (m : Mapping) (i : MappedField) (id : Int64) (row : Row) (st : TextStore)
    (r : Record) (st' : TextStore) (r' : Record) : Prop where
  identity : i.rawValue st' r' = .int id
  values : ∀ f ∈ m.nowFields st r, ∃ cell v, row.get? f.column = some cell ∧
    f.type.coerce cell = .ok v ∧ f.rawValue st' r' = f.declaration.shape.scalarType.held v
  settled : m.nowFields st' r' = []
  others : ∀ f ∈ m.fields, f ∉ m.nowFields st r → f.index ≠ i.index →
    f.rawValue st' r' = f.rawValue st r

section

variable {t : RecordType} {m : Mapping} {st : TextStore} {r : Record} {i : MappedField}

theorem mem_nowFields {f : MappedField} :
    f ∈ m.nowFields st r ↔ f ∈ m.fields ∧ (f.rawValue st r).isServerNow = true :=
  List.mem_filter

theorem IsIdentity.isServerNow_eq {v : Value} (number : IsIdentity v) : v.isServerNow = false := by
  rcases number with rfl | ⟨n, rfl⟩ <;> rfl

/-- Giving a record its identity leaves all other fields to the clock that were. -/
theorem nowFields_eq {st₁ : TextStore} {r₁ : Record} {id : Int64} (fits : r.Fits st t)
    (number : IsIdentity (i.rawValue st r)) (written : r.Rewritten t (· = i.index) st st₁ r₁)
    (value : i.rawValue st₁ r₁ = .int id) : m.nowFields st₁ r₁ = m.nowFields st r := by
  refine List.filter_congr fun f _ => ?_
  by_cases own : f.index = i.index
  · have now : (f.rawValue st r).isServerNow = false := by
      rw [MappedField.rawValue, own]
      exact number.isServerNow_eq
    rw [now, MappedField.rawValue, own]
    exact congrArg Value.isServerNow value
  · exact congrArg Value.isServerNow (written.get_eq fits own)

variable (built : ofType t = .ok m)
include built

theorem check_of_fits (fits : r.Fits st t) : m.check r = .ok () :=
  if_pos (by rw [fits.type, (eq_of_ofType built).1])

/-- The identity is one of the fields, and an integer. -/
theorem identity_of_ofType (identity : m.identity = some i) :
    i ∈ m.fields ∧ i.type.isInteger = true := by
  obtain ⟨-, -, -, found, search, whole, rfl⟩ := ofType_eq_ok_iff_checks.1 built
  obtain ⟨named, -⟩ := findIdentity_eq_ok_iff.1 search
  exact ⟨List.mem_of_find?_eq_some (named.trans identity), whole i identity⟩

theorem eq_of_index {f g : MappedField} (hf : f ∈ m.fields) (hg : g ∈ m.fields)
    (same : f.index = g.index) : f = g := by
  by_contra apart
  have symm : Std.Symm fun f g : MappedField => f.index ≠ g.index := ⟨fun _ _ => Ne.symm⟩
  exact ((sorted_of_ofType built).imp Nat.ne_of_lt).forall hf hg apart same

theorem persistedId_of_assigned (fits : r.Fits st t) (identity : m.identity = some i) {n : Int64}
    (int : i.rawValue st r = .int n) (nonneg : 0 ≤ n.toInt) :
    m.persistedId st r = .ok (some n) := by
  rw [persistedId, check_of_fits built fits, requireIdentity, identity]
  simp only [bind, Except.bind, int, if_pos nonneg]
  rfl

theorem persistedId_of_unassigned (fits : r.Fits st t) (identity : m.identity = some i)
    (unassigned : IsUnassigned (i.rawValue st r)) : m.persistedId st r = .ok none := by
  rw [persistedId, check_of_fits built fits, requireIdentity, identity]
  rcases unassigned with null | ⟨n, int, negative⟩
  · simp only [bind, Except.bind, null]
    rfl
  · simp only [bind, Except.bind, int, if_neg (Int.not_le.2 negative)]
    rfl

/-- An identity that is given to a record is the only thing that changes. -/
theorem setIdentity_rewritten {id : Int64} (fits : r.Fits st t) (identity : m.identity = some i)
    (number : IsIdentity (i.rawValue st r)) (h : (m.setIdentity st r id).result = .ok ()) :
    let c := m.setIdentity st r id
    Record.Rewritten t (· = i.index) st r c.store c.record ∧
      i.rawValue c.store c.record = .int id := by
  obtain ⟨mem, integer⟩ := identity_of_ofType built identity
  have target : r.target? i.index = none := by
    refine Record.target?_eq_none st fun s text => ?_
    rcases number with null | ⟨n, int⟩
    · exact Value.noConfusion (null.symm.trans text)
    · exact Value.noConfusion (int.symm.trans text)
  have reads : m.setIdentity st r id = i.readColumn st r (.int id) := by
    simp only [setIdentity, check_of_fits built fits, requireIdentity, identity]
  rw [reads] at h ⊢
  obtain ⟨written, u, coerced, value⟩ :=
    i.readColumn_rewritten fits (declared_of_ofType built mem) target h
  refine ⟨written, ?_⟩
  rw [FieldType.coerce_int integer] at coerced
  rw [value, ← Except.ok.inj coerced, Scalar.held_int]

/-- Of a record that a row is read into, only the fields that were left to the database change. -/
theorem readRow_rewritten {row : Row} {n : Nat} (fits : r.Fits st t)
    (carries : m.Carries (m.nowFields st r) row) (h : (m.readRow st r row).result = .ok n) :
    let c := m.readRow st r row
    Record.Rewritten t (fun j => ∃ f ∈ m.nowFields st r, f.index = j) st r c.store c.record ∧
      ∀ f ∈ m.nowFields st r, ∃ v u, row.get? f.column = some v ∧ f.type.coerce v = .ok u ∧
        f.rawValue c.store c.record = f.declaration.shape.scalarType.held u := by
  have reads : m.readRow st r row = readFields row 0 r st m.fields := by
    simp only [readRow, check_of_fits built fits]
  have target (f : MappedField) (hf : f ∈ m.fields) (has : (row.get? f.column).isSome = true) :
      r.target? f.index = none := by
    have now := (List.mem_filter.1 ((carries f hf).1 has)).2
    refine Record.target?_eq_none st fun s text => ?_
    rw [MappedField.rawValue, text] at now
    cases now
  rw [reads] at h ⊢
  obtain ⟨written, values⟩ := readFields_rewritten (sorted_of_ofType built)
    (fun f hf => declared_of_ofType built hf) fits target h
  refine ⟨written.mono ?_, ?_⟩
  · rintro j ⟨f, hf, place, has⟩
    exact ⟨f, (carries f hf).1 has, place⟩
  intro f now
  have hf := (List.mem_filter.1 now).1
  obtain ⟨v, cell⟩ := Option.isSome_iff_exists.1 ((carries f hf).2 now)
  obtain ⟨u, coerced, value⟩ := values f hf v cell
  exact ⟨v, u, cell, coerced, value⟩

theorem filled_of_rewritten {st₁ st' : TextStore} {r₁ r' : Record} {id : Int64} {row : Row}
    (fits : r.Fits st t) (number : IsIdentity (i.rawValue st r))
    (first : r.Rewritten t (· = i.index) st st₁ r₁) (value : i.rawValue st₁ r₁ = .int id)
    (second : r₁.Rewritten t (fun j => ∃ f ∈ m.nowFields st₁ r₁, f.index = j) st₁ st' r')
    (values : ∀ f ∈ m.nowFields st₁ r₁, ∃ cell v, row.get? f.column = some cell ∧
      f.type.coerce cell = .ok v ∧ f.rawValue st' r' = f.declaration.shape.scalarType.held v) :
    m.Filled i id row st r st' r' := by
  have same := nowFields_eq (m := m) fits number first value
  have behind {f : MappedField} (apart : ∀ g ∈ m.nowFields st₁ r₁, g.index ≠ f.index) :
      f.rawValue st' r' = f.rawValue st₁ r₁ :=
    second.get_eq first.fits fun ⟨g, hg, place⟩ => apart g hg place
  have identity : i.rawValue st' r' = .int id := by
    refine (behind fun g hg place => ?_).trans value
    have now := (mem_nowFields.1 hg).2
    rw [MappedField.rawValue, place] at now
    exact Bool.noConfusion (now.symm.trans (congrArg Value.isServerNow value))
  have others (f : MappedField) (hf : f ∈ m.fields) (fixed : f ∉ m.nowFields st r)
      (apart : f.index ≠ i.index) : f.rawValue st' r' = f.rawValue st r := by
    refine (behind fun g hg place => fixed ?_).trans (first.get_eq fits apart)
    rw [← same, ← eq_of_index built (mem_nowFields.1 hg).1 hf place]
    exact hg
  refine ⟨identity, same ▸ values, List.filter_eq_nil_iff.2 fun f hf => ?_, others⟩
  rw [Bool.not_eq_true]
  by_cases own : f.index = i.index
  · rw [MappedField.rawValue, own]
    exact congrArg Value.isServerNow identity
  · by_cases now : f ∈ m.nowFields st r
    · obtain ⟨cell, v, -, coerced, held⟩ := values f (same ▸ now)
      rw [held]
      exact Scalar.isServerNow_held _ (FieldType.isServerNow_of_coerce coerced)
    · rw [others f hf now own, ← Bool.not_eq_true]
      exact fun left => now (mem_nowFields.2 ⟨hf, left⟩)

end

theorem bindFields_eq {st : TextStore} {r : Record} {fs : List MappedField}
    {bound : List (MappedField × Value)} (h : bindFields st r fs = .ok bound) :
    bound = fs.map fun f => (f, f.rawValue st r) := by
  induction fs generalizing bound with
  | nil => cases h; rfl
  | cons f fs ih =>
    simp only [bindFields, List.mapM_cons] at h ih
    cases first : f.bindValue st r with
    | error e => rw [first] at h; cases h
    | ok v =>
      cases rest : fs.mapM fun f => (f.bindValue st r).map fun v => (f, v) with
      | error e => rw [first, rest] at h; cases h
      | ok others =>
        rw [first, rest] at h
        cases h
        rw [ih rest, MappedField.bindValue_eq first]
        rfl

/-- What is noted while a record is inserted are the fields that are left to the database. -/
theorem stamped_of_insertStatement {m : Mapping} {o : BuildOptions} {st : TextStore} {r : Record}
    {i : MappedField} {p : PreparedStatement} (identity : m.identity = some i)
    (number : IsIdentity (i.rawValue st r)) (h : m.insertStatement o st r = .ok p) :
    p.stamped = (m.nowFields st r).map MappedField.index := by
  have included (f : MappedField) (now : (f.rawValue st r).isServerNow = true) :
      m.isIdentity f = false := by
    rw [isIdentity, identity]
    refine beq_eq_false_iff_ne.2 fun same => ?_
    rw [MappedField.rawValue, ← same] at now
    exact Bool.noConfusion (now.symm.trans number.isServerNow_eq)
  cases binds : bindFields st r (m.insertedFields st r) with
  | error e => rw [insertStatement, binds] at h; cases h
  | ok bound =>
    rw [insertStatement, binds] at h
    cases h
    rw [bindFields_eq binds]
    simp only [stampedFields, List.filter_map, List.map_map, insertedFields, nowFields,
      List.filter_filter]
    refine congrArg (List.map _) (List.filter_congr fun f _ => ?_)
    cases now : (f.rawValue st r).isServerNow with
    | false => simp [now]
    | true => simp [now, included f now]

end Mapping

end DataMapper
