import DataMapper.Proofs.Field.Kinds
import DataMapper.Proofs.Field.Maps

/-!
# Values taken over by fields

The value that is written out for a field is taken over by every field of the same shape, whatever
it held before. A localized text is written to the instance that the field has, or to a new one; all
other instances stay as they are.

## Main definitions

* `FieldShape.handle?`, `FieldShape.target?` — the instance that a content leads to, and the one
  that an assignment to it writes to.
* `Field.Takes` — a field that has taken over a value.

## Main statements

* `FieldShape.coerce_toValue` — a value of a field is of the kind that its type holds.
* `Field.assign_toValue` — a field takes over the value of another one of its shape.
-/

namespace DataMapper

theorem Value.eq_null_of_isNull {v : Value} (h : v.isNull = true) : v = .null := by
  cases v <;> first | rfl | cases h

theorem Value.eq_serverNow_of_isServerNow {v : Value} (h : v.isServerNow = true) :
    v = .serverNow := by
  cases v <;> first | rfl | cases h

/-! ## Instances -/

namespace TextStore

theorem valid_mono {st st' : TextStore} (h : st.instances.length ≤ st'.instances.length)
    {k : LocalizedString} (valid : st.Valid k) : st'.Valid k :=
  Nat.lt_of_lt_of_le valid h

theorem length_write (st : TextStore) (k : LocalizedString) (m : Translations) :
    (st.write k m).instances.length = st.instances.length := by
  simp [write]

theorem length_allocate (st : TextStore) (m : Translations) :
    (st.allocate m).2.instances.length = st.instances.length + 1 := by
  simp [allocate]

theorem not_valid_allocate (st : TextStore) (m : Translations) : ¬ st.Valid (st.allocate m).1 := by
  simp [Valid, allocate]

theorem valid_allocate (st : TextStore) (m : Translations) :
    (st.allocate m).2.Valid (st.allocate m).1 := by
  simp [Valid, allocate]

/-- A new instance leaves the others as they are. -/
theorem read_allocate_of_valid {st : TextStore} {k : LocalizedString} (valid : st.Valid k)
    (m : Translations) : (st.allocate m).2.read k = st.read k := by
  simp [read, allocate, List.getElem?_append_left valid]

end TextStore

namespace Scalar

/-- The instance that a content leads to. -/
def handle? : (s : Scalar) → s.Content → Option LocalizedString
  | localized, h => some h
  | _, _ => none

/-- A value depends on no other instance. -/
theorem toValue_congr {st st' : TextStore} (s : Scalar) (c : s.Content)
    (same : ∀ k, s.handle? c = some k → st'.read k = st.read k) :
    s.toValue st' c = s.toValue st c := by
  cases s with
  | localized =>
    have read := same c rfl
    simp only [toValue, LocalizedString.encode, read]
  | integer | single | double | bool | decimal | char | string | bytes | date | time | timestamp
  | timestampUtc | uuid | json | properties | enumeration => rfl

theorem toValue_of_handle? {st : TextStore} {s : Scalar} {c : s.Content} {k : LocalizedString}
    (h : s.handle? c = some k) : s.toValue st c = .text (k.encode st) := by
  cases s with
  | localized => rw [← Option.some.inj h]; rfl
  | integer | single | double | bool | decimal | char | string | bytes | date | time | timestamp
  | timestampUtc | uuid | json | properties | enumeration => cases h

theorem coerce_toValue (st : TextStore) (s : Scalar) (c : s.Content) :
    s.fieldType.coerce (s.toValue st c) = .ok (s.toValue st c) := by
  cases s with
  | integer k => cases k <;> rfl
  | single | double | bool | decimal | char | string | bytes | date | time | timestamp
  | timestampUtc | uuid | json | properties | localized | enumeration => rfl

end Scalar

namespace FieldShape

/-- The type of what is held at the end. -/
def scalarType : FieldShape → Scalar
  | scalar s => s
  | optional t | serverTime t => t.scalarType

def handle? : (t : FieldShape) → t.Content → Option LocalizedString
  | scalar s, c => s.handle? c
  | optional _, none => none
  | optional t, some c => t.handle? c
  | serverTime _, .now => none
  | serverTime t, .literal c => t.handle? c

/-- The instance that an assignment of something else than null writes to. -/
def target? : (t : FieldShape) → t.Content → Option LocalizedString
  | scalar s, c => s.handle? c
  | optional _, none => none
  | optional t, some c => t.target? c
  | serverTime _, _ => none

theorem toValue_congr {st st' : TextStore} (t : FieldShape) (c : t.Content)
    (same : ∀ k, t.handle? c = some k → st'.read k = st.read k) :
    t.toValue st' c = t.toValue st c := by
  induction t with
  | scalar s => exact s.toValue_congr c same
  | optional t ih =>
    cases c with
    | none => rfl
    | some c => exact ih c same
  | serverTime t ih =>
    cases c with
    | now => rfl
    | literal c => exact ih c same

/-- A content that leads to an instance has the text of that instance for its value. -/
theorem toValue_of_handle? {st : TextStore} {t : FieldShape} {c : t.Content} {k : LocalizedString}
    (h : t.handle? c = some k) : t.toValue st c = .text (k.encode st) := by
  induction t with
  | scalar s => exact Scalar.toValue_of_handle? h
  | optional t ih =>
    cases c with
    | none => cases h
    | some c => exact ih h
  | serverTime t ih =>
    cases c with
    | now => cases h
    | literal c => exact ih h

theorem handle?_of_target? {t : FieldShape} {c : t.Content} {k : LocalizedString}
    (h : t.target? c = some k) : t.handle? c = some k := by
  induction t with
  | scalar s => exact h
  | optional t ih =>
    cases c with
    | none => cases h
    | some c => exact ih h
  | serverTime t => cases h

/-- A value of a field is of the kind that its type holds. -/
theorem coerce_toValue {st : TextStore} {t : FieldShape} {c : t.Content}
    (now : (t.toValue st c).isServerNow = false) :
    t.fieldType.coerce (t.toValue st c) = .ok (t.toValue st c) := by
  induction t with
  | scalar s => exact s.coerce_toValue st c
  | optional t ih =>
    cases c with
    | none => exact FieldType.coerce_null _
    | some c => exact ih now
  | serverTime t ih =>
    cases c with
    | now => cases now
    | literal c => exact ih now

end FieldShape

namespace Field

def handle? (f : Field) : Option LocalizedString := f.shape.handle? f.content

def target? (f : Field) : Option LocalizedString := f.shape.target? f.content

theorem toValue_congr {st st' : TextStore} (f : Field)
    (same : ∀ k, f.handle? = some k → st'.read k = st.read k) : f.toValue st' = f.toValue st :=
  f.shape.toValue_congr f.content same

theorem toValue_of_handle? {st : TextStore} {f : Field} {k : LocalizedString}
    (h : f.handle? = some k) : f.toValue st = .text (k.encode st) :=
  FieldShape.toValue_of_handle? h

/-- A field `f`, in the store `st'`, that has taken over a value in the store `st`, where only the
instance `target` could be written to. -/
structure Takes (st : TextStore) (target : Option LocalizedString) (v : Value) (f : Field)
    (st' : TextStore) : Prop where
  value : f.toValue st' = v
  grows : st.instances.length ≤ st'.instances.length
  kept : ∀ k, st.Valid k → (target = some k → v.isNull = true) → st'.read k = st.read k
  /-- The field leads to the instance that was written to, or to a new one. -/
  handle : ∀ k, f.handle? = some k → st'.Valid k ∧ (target = some k ∨ ¬ st.Valid k)
  leads : ∀ k, target = some k → v.isNull = false → f.handle? = some k

/-- A field without an instance takes over a value where no instance is written to. -/
theorem takes_of_handle?_eq_none {st : TextStore} {v : Value} {f : Field} (own : f.handle? = none)
    (value : f.toValue st = v) : Takes st none v f st where
  value := value
  grows := Nat.le_refl _
  kept _ _ _ := rfl
  handle k found := by
    rw [own] at found
    cases found
  leads _ target := by cases target

/-- A null is taken over as the absence of a content. -/
theorem takes_null {st : TextStore} {v : Value} (target : Option LocalizedString) (t : FieldShape)
    (null : v.isNull = true) : Takes st target v ⟨.optional t, none⟩ st where
  value := (Value.eq_null_of_isNull null).symm
  grows := Nat.le_refl _
  kept _ _ _ := rfl
  handle _ found := by cases found
  leads _ _ filled := by
    rw [null] at filled
    cases filled

section

variable {st st' : TextStore} {target : Option LocalizedString} {v : Value} {t : FieldShape}
  {c : t.Content}

theorem Takes.optional (h : Takes st target v ⟨t, c⟩ st') :
    Takes st target v ⟨.optional t, some c⟩ st' :=
  ⟨h.value, h.grows, h.kept, h.handle, h.leads⟩

theorem Takes.serverTime (h : Takes st target v ⟨t, c⟩ st') :
    Takes st target v ⟨.serverTime t, .literal c⟩ st' :=
  ⟨h.value, h.grows, h.kept, h.handle, h.leads⟩

end

end Field

open DataMapper.Field (Takes takes_of_handle?_eq_none takes_null)

section

variable (st : TextStore) {st₀ : TextStore}

theorem mapOfValue_encodeMap (typeName : String) (m : KeyMap String) :
    Scalar.mapOfValue typeName (.text (encodeMap m)) = .ok m := by
  simp only [Scalar.mapOfValue, decodeMap_encodeMap]

theorem constantOfValue_stored (e : Enumeration) (i : Fin e.stored.length) :
    ∃ j, Scalar.constantOfValue e (.enumName (e.stored.get i)) = .ok j ∧
      e.stored.get j = e.stored.get i := by
  cases found : e.stored.finIdxOf? (e.stored.get i) with
  | none => exact absurd (List.get_mem _ i) (List.finIdxOf?_eq_none_iff.1 found)
  | some j =>
    refine ⟨j, ?_, (List.finIdxOf?_eq_some_iff.1 found).1⟩
    simp only [Scalar.constantOfValue, found]

/-- The integers of every field type fit into 64 bits. -/
theorem IntegerKind.toInt_ofInt {k : IntegerKind} (n : k.Range) :
    (Int64.ofInt n.val).toInt = n := by
  obtain ⟨n, least, most⟩ := n
  have wide : -2 ^ 63 ≤ n ∧ n < 2 ^ 63 := by
    cases k <;> simp only [low, high] at least most <;> omega
  exact Int64.toInt_ofInt_of_le wide.1 wide.2

theorem takes_allocate (m : Translations) :
    Takes st none (.text (encodeMap m)) ⟨.scalar .localized, (st.allocate m).1⟩
      (st.allocate m).2 where
  value := congrArg (fun m => Value.text (encodeMap m)) (st.read_allocate m)
  grows := by rw [TextStore.length_allocate]; exact Nat.le_succ _
  kept _ valid _ := TextStore.read_allocate_of_valid valid m
  handle k found := by
    obtain rfl := Option.some.inj found
    exact ⟨st.valid_allocate m, .inr (st.not_valid_allocate m)⟩
  leads _ target := by cases target

theorem takes_write {h : LocalizedString} (valid : st.Valid h) (m : Translations) :
    Takes st (some h) (.text (encodeMap m)) ⟨.scalar .localized, h⟩ (st.write h m) where
  value := congrArg (fun m => Value.text (encodeMap m)) (TextStore.read_write_self valid m)
  grows := Nat.le_of_eq (st.length_write h m).symm
  kept k _ other := by
    refine st.read_write_ne (fun same => ?_) m
    cases other (congrArg some same)
  handle k found := by
    obtain rfl := Option.some.inj found
    exact ⟨TextStore.valid_mono (Nat.le_of_eq (st.length_write h m).symm) valid, .inl rfl⟩
  leads _ target _ := target

/-- What is made from the value of a scalar has that value again. -/
theorem Scalar.ofValue_toValue {s : Scalar} (wide : s ≠ .single) (c₀ : s.Content) :
    ∃ c st', s.ofValue st (s.toValue st₀ c₀) = .ok (c, st') ∧
      Takes st none (s.toValue st₀ c₀) ⟨.scalar s, c⟩ st' := by
  cases s with
  | single => exact absurd rfl wide
  | double | bool | decimal | char | string | bytes | date | time | timestamp | timestampUtc | uuid
  | json => exact ⟨c₀, st, rfl, takes_of_handle?_eq_none rfl rfl⟩
  | integer k =>
    have same := IntegerKind.toInt_ofInt c₀
    have inside : k.low ≤ (Int64.ofInt c₀.val).toInt ∧ (Int64.ofInt c₀.val).toInt ≤ k.high := by
      rw [same]
      exact c₀.property
    refine ⟨⟨_, inside⟩, st, dif_pos inside, takes_of_handle?_eq_none rfl ?_⟩
    simp only [Field.toValue, FieldShape.toValue, Scalar.toValue, same]
  | properties =>
    refine ⟨c₀, st, ?_, takes_of_handle?_eq_none rfl rfl⟩
    exact congrArg (Except.map fun m => (m, st)) (mapOfValue_encodeMap "Properties" c₀)
  | localized =>
    refine ⟨_, _, ?_, takes_allocate st (st₀.read c₀)⟩
    exact congrArg (Except.map st.allocate) (mapOfValue_encodeMap "LocalizedString" (st₀.read c₀))
  | enumeration e =>
    obtain ⟨i, found, same⟩ := constantOfValue_stored e c₀
    refine ⟨i, st, ?_, takes_of_handle?_eq_none rfl ?_⟩
    · simp only [Scalar.ofValue, Scalar.toValue, found]
      rfl
    · exact congrArg Value.enumName same

/-- What is made from the value of a content has that value again. -/
theorem FieldShape.ofValue_toValue {t : FieldShape} (wide : t.scalarType ≠ .single) (c₀ : t.Content)
    (now : (t.toValue st₀ c₀).isServerNow = false) :
    ∃ c st', t.ofValue st (t.toValue st₀ c₀) = .ok (c, st') ∧
      Takes st none (t.toValue st₀ c₀) ⟨t, c⟩ st' := by
  induction t with
  | scalar s => exact Scalar.ofValue_toValue st wide c₀
  | optional t ih =>
    cases c₀ with
    | none => exact ⟨none, st, rfl, takes_of_handle?_eq_none rfl rfl⟩
    | some c₀ =>
      change ∃ c st', (optional t).ofValue st (t.toValue st₀ c₀) = .ok (c, st') ∧
        Takes st none (t.toValue st₀ c₀) ⟨optional t, c⟩ st'
      cases null : (t.toValue st₀ c₀).isNull with
      | true => exact ⟨none, st, if_pos null, takes_null _ t null⟩
      | false =>
        obtain ⟨c, st', made, takes⟩ := ih wide c₀ now
        refine ⟨some c, st', ?_, takes.optional⟩
        rw [ofValue, null, made]
        rfl
  | serverTime t ih =>
    cases c₀ with
    | now => cases now
    | literal c₀ =>
      obtain ⟨c, st', made, takes⟩ := ih wide c₀ now
      refine ⟨.literal c, st', ?_, takes.serverTime⟩
      change (serverTime t).ofValue st (t.toValue st₀ c₀) = _
      rw [ofValue, if_neg (by rwa [Bool.not_eq_true]), made]
      rfl

/-- The value of a content can be assigned to every content of the shape. -/
theorem FieldShape.assign_toValue {t : FieldShape} (wide : t.scalarType ≠ .single)
    (c₀ c : t.Content) (now : (t.toValue st₀ c₀).isServerNow = false)
    (valid : ∀ k, t.target? c = some k → st.Valid k) :
    ∃ c' st', t.assign st c (t.toValue st₀ c₀) = .ok (c', st') ∧
      Takes st (t.target? c) (t.toValue st₀ c₀) ⟨t, c'⟩ st' := by
  induction t with
  | scalar s =>
    cases s with
    | localized =>
      refine ⟨c, st.write c (st₀.read c₀), ?_, takes_write st (valid c rfl) (st₀.read c₀)⟩
      exact congrArg (Except.map fun m => (c, st.write c m))
        (mapOfValue_encodeMap "LocalizedString" (st₀.read c₀))
    | integer | single | double | bool | decimal | char | string | bytes | date | time | timestamp
    | timestampUtc | uuid | json | properties | enumeration =>
      exact Scalar.ofValue_toValue st wide c₀
  | optional t ih =>
    cases c with
    | none => exact FieldShape.ofValue_toValue st (t := .optional t) wide c₀ now
    | some c =>
      cases c₀ with
      | none => exact ⟨none, st, rfl, takes_null _ t rfl⟩
      | some c₀ =>
        cases null : (t.toValue st₀ c₀).isNull with
        | true => exact ⟨none, st, if_pos null, takes_null _ t null⟩
        | false =>
          obtain ⟨c', st', assigned, takes⟩ := ih wide c₀ c now valid
          refine ⟨some c', st', ?_, takes.optional⟩
          change (optional t).assign st (some c) (t.toValue st₀ c₀) = _
          rw [assign, null, assigned]
          rfl
  | serverTime t => exact FieldShape.ofValue_toValue st (t := .serverTime t) wide c₀ now

end

/-- A field takes over the value of every field of its shape that does not hold the time of the
database. -/
theorem Field.assign_toValue {st st₀ : TextStore} {f f₀ : Field} (same : f.shape = f₀.shape)
    (wide : f.shape.scalarType ≠ .single) (now : (f₀.toValue st₀).isServerNow = false)
    (valid : ∀ k, f.target? = some k → st.Valid k) :
    ∃ f' st', f.assign st (f₀.toValue st₀) = .ok (f', st') ∧ f'.shape = f.shape ∧
      Takes st f.target? (f₀.toValue st₀) f' st' := by
  obtain ⟨t, c⟩ := f
  obtain ⟨t₀, c₀⟩ := f₀
  obtain rfl : t = t₀ := same
  obtain ⟨c', st', assigned, takes⟩ := FieldShape.assign_toValue st wide c₀ c now valid
  refine ⟨⟨t, c'⟩, st', ?_, rfl, takes⟩
  simp only [Field.assign, Field.toValue, assigned]
  rfl

end DataMapper
