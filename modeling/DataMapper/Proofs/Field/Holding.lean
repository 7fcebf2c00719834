import DataMapper.Proofs.Field.Assignment

/-!
# Values held by fields

A value that has been coerced and assigned is held as the type of the field writes it out: in fewer
bits, under the name of a constant, or as a list of pairs in order. Where an assignment writes to no
instance of a localized text, all instances stay as they are.

## Main definitions

* `Scalar.held` — what a field holds after a value has been assigned to it.

## Main statements

* `FieldType.isServerNow_of_coerce` — nothing that is read stands for the time of the database.
* `Field.takes_of_assign` — what an assignment leaves behind.
-/

namespace DataMapper

open Number

/-! ## Coerced values -/

namespace FieldType

theorem isServerNow_of_kind {type : FieldType} {v : Value} (h : v.kind = type.kind) :
    v.isServerNow = false := by
  cases type <;> cases v <;> cases h <;> rfl

/-- No value that comes from the database stands for the time of the database. -/
theorem isServerNow_of_coerce {type : FieldType} {v u : Value} (h : type.coerce v = .ok u) :
    u.isServerNow = false := by
  rcases kind_of_coerce h with rfl | held
  · rfl
  · exact isServerNow_of_kind held

theorem coerce_int {type : FieldType} (integer : type.isInteger = true) (n : Int64) :
    type.coerce (.int n) = .ok (.int n) := by
  cases type <;> first | rfl | cases integer

end FieldType

/-! ## Scalars -/

namespace Scalar

/-- What a scalar holds after a value has been assigned to it. -/
def held (s : Scalar) (v : Value) : Value :=
  match s, v with
  | single, .float x => .float ((x.convert .single : Single).convert .double)
  | string, .enumName name => .text name
  | enumeration _, .text name => .enumName name
  | properties, .text s | localized, .text s =>
    match decodeMap s with
    | .ok m => .text (encodeMap m)
    | .error _ => .text s
  | _, v => v

theorem held_null (s : Scalar) : s.held .null = .null := by cases s <;> rfl

theorem held_serverNow (s : Scalar) : s.held .serverNow = .serverNow := by cases s <;> rfl

theorem held_int (s : Scalar) (n : Int64) : s.held (.int n) = .int n := by cases s <;> rfl

theorem isServerNow_held (s : Scalar) {v : Value} (h : v.isServerNow = false) :
    (s.held v).isServerNow = false := by
  unfold held
  split <;> try rfl
  · split <;> rfl
  · split <;> rfl
  · exact h

end Scalar

open DataMapper.Field (Takes takes_of_handle?_eq_none takes_null)

variable {st st' : TextStore} {v : Value}

theorem Scalar.eq_of_mapOfValue {typeName : String} {m : KeyMap String}
    (h : mapOfValue typeName v = .ok m) : ∃ s, v = .text s ∧ decodeMap s = .ok m := by
  unfold mapOfValue at h
  split at h
  · next s =>
    split at h <;> cases h
    next decoded => exact ⟨s, rfl, decoded⟩
  · cases h

theorem Scalar.eq_of_constantOfValue {e : Enumeration} {i : Fin e.stored.length}
    (h : constantOfValue e v = .ok i) :
    v = .enumName (e.stored.get i) ∨ v = .text (e.stored.get i) := by
  unfold constantOfValue at h
  split at h
  · split at h <;> cases h
    next found => exact .inl (congrArg Value.enumName (List.finIdxOf?_eq_some_iff.1 found).1.symm)
  · split at h <;> cases h
    next found => exact .inr (congrArg Value.text (List.finIdxOf?_eq_some_iff.1 found).1.symm)
  · cases h

/-- What is made from a value is held as the type writes the value out. -/
theorem Scalar.takes_of_ofValue {s : Scalar} {c : s.Content}
    (h : s.ofValue st v = .ok (c, st')) : Takes st none (s.held v) ⟨.scalar s, c⟩ st' := by
  cases s with
  | single | double | bool | decimal | char | string | bytes | date | time | timestamp
  | timestampUtc | uuid | json =>
    cases v <;> cases h <;> exact takes_of_handle?_eq_none rfl rfl
  | integer k =>
    cases v with
    | int n =>
      change (if h : k.low ≤ n.toInt ∧ n.toInt ≤ k.high then _ else _ : Except _ _) = _ at h
      split at h <;> cases h
      exact takes_of_handle?_eq_none rfl (congrArg Value.int (Int64.ofInt_toInt n))
    | _ => cases h
  | properties =>
    obtain ⟨m, read, made⟩ := Except.exists_of_map h
    obtain ⟨s, rfl, decoded⟩ := eq_of_mapOfValue read
    cases made
    refine takes_of_handle?_eq_none rfl ?_
    simp only [held, decoded]
    rfl
  | localized =>
    obtain ⟨m, read, made⟩ := Except.exists_of_map h
    obtain ⟨s, rfl, decoded⟩ := eq_of_mapOfValue read
    cases made
    simp only [held, decoded]
    exact takes_allocate st m
  | enumeration e =>
    obtain ⟨i, read, made⟩ := Except.exists_of_map h
    cases made
    obtain rfl | rfl := eq_of_constantOfValue read <;> exact takes_of_handle?_eq_none rfl rfl

namespace FieldShape

theorem takes_of_ofValue {t : FieldShape} {c : t.Content} (h : t.ofValue st v = .ok (c, st')) :
    Takes st none (t.scalarType.held v) ⟨t, c⟩ st' := by
  induction t with
  | scalar s => exact Scalar.takes_of_ofValue h
  | optional t ih =>
    rw [ofValue] at h
    split at h
    · next null =>
      cases h
      obtain rfl := Value.eq_null_of_isNull null
      exact takes_of_handle?_eq_none rfl (Scalar.held_null _).symm
    · obtain ⟨⟨c, st⟩, made, rfl, rfl⟩ := Except.exists_of_map h
      exact (ih made).optional
  | serverTime t ih =>
    rw [ofValue] at h
    split at h
    · next now =>
      cases h
      obtain rfl := Value.eq_serverNow_of_isServerNow now
      exact takes_of_handle?_eq_none rfl (Scalar.held_serverNow _).symm
    · obtain ⟨⟨c, st⟩, made, same⟩ := Except.exists_of_map h
      cases same
      exact (ih made).serverTime

/-- What is assigned to a content is held as the type writes it out, in the instance that the
assignment writes to or in a content that is new. -/
theorem takes_of_assign {t : FieldShape} {c c' : t.Content}
    (valid : ∀ k, t.target? c = some k → st.Valid k) (h : t.assign st c v = .ok (c', st')) :
    Takes st (t.target? c) (t.scalarType.held v) ⟨t, c'⟩ st' := by
  induction t with
  | scalar s =>
    cases s with
    | localized =>
      obtain ⟨m, read, made⟩ := Except.exists_of_map h
      obtain ⟨s, rfl, decoded⟩ := Scalar.eq_of_mapOfValue read
      cases made
      simp only [scalarType, Scalar.held, decoded]
      exact takes_write st (valid c rfl) m
    | integer | single | double | bool | decimal | char | string | bytes | date | time | timestamp
    | timestampUtc | uuid | json | properties | enumeration => exact Scalar.takes_of_ofValue h
  | optional t ih =>
    cases c with
    | none => exact takes_of_ofValue h
    | some c =>
      rw [assign] at h
      split at h
      · next null =>
        cases h
        obtain rfl := Value.eq_null_of_isNull null
        exact (Scalar.held_null t.scalarType).symm ▸ takes_null _ t rfl
      · obtain ⟨⟨c, st⟩, made, same⟩ := Except.exists_of_map h
        cases same
        exact (ih valid made).optional
  | serverTime t => exact takes_of_ofValue (t := .serverTime t) h

end FieldShape

namespace Field

/-- A field takes over what is assigned to it as its type holds it. -/
theorem takes_of_assign {f g : Field} (valid : ∀ k, f.target? = some k → st.Valid k)
    (h : f.assign st v = .ok (g, st')) :
    g.shape = f.shape ∧ g.Takes st f.target? (f.shape.scalarType.held v) st' := by
  obtain ⟨⟨c, st⟩, made, same⟩ := Except.exists_of_map h
  cases same
  exact ⟨rfl, FieldShape.takes_of_assign valid made⟩

/-- An assignment writes to an instance only where the field holds the text of it. -/
theorem target?_eq_none {f : Field} (plain : ∀ s, f.toValue st ≠ .text s) : f.target? = none := by
  cases target : f.target? with
  | none => rfl
  | some k =>
    exact absurd (toValue_of_handle? (FieldShape.handle?_of_target? target)) (plain _)

end Field

end DataMapper
