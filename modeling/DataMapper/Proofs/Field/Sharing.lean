import DataMapper.Proofs.Field.Holding

/-!
# Shared localized texts

Variables and fields lead to instances of localized texts in one store. A change through one of them
is seen by all that lead to the same instance, and by nobody else. A field that is assigned to keeps
its instance; an optional field gives it up for null, and gets one of its own with the next text.

## Main definitions

* `Holdings` — variables and fields over one store, with the steps that they may take.
* `Holdings.Changed`, `Holdings.Apart` — what a step leaves as it was.

## Main statements

* `Holdings.lawful` — what each kind of step does.
-/

namespace DataMapper

open Text

/-! ## Fields with a localized text -/

namespace Field

/-- The field holds a localized text, or may hold one. -/
def IsLocalized (f : Field) : Prop :=
  f.shape = .scalar .localized ∨ f.shape = .optional (.scalar .localized)

variable (st : TextStore) {f : Field} {v : Value} {m : Translations}

/-- A map that is assigned to a field with an instance is written to it. -/
theorem assign_of_handle? {h : LocalizedString} (localized : f.IsLocalized)
    (held : f.handle? = some h) (read : Scalar.mapOfValue "LocalizedString" v = .ok m) :
    f.assign st v = .ok (f, st.write h m) := by
  obtain ⟨s, rfl, -⟩ := Scalar.eq_of_mapOfValue read
  obtain ⟨t, c⟩ := f
  obtain rfl | rfl : t = .scalar .localized ∨ t = .optional (.scalar .localized) := localized
  · obtain rfl : c = h := Option.some.inj held
    simp only [assign, FieldShape.assign, Scalar.assign, read]
    rfl
  · cases c with
    | none => cases held
    | some c =>
      obtain rfl : c = h := Option.some.inj held
      simp only [assign, FieldShape.assign, Scalar.assign, read]
      rfl

/-- A map that is assigned to an empty field is a new instance. -/
theorem assign_of_handle?_eq_none (optional : f.shape = .optional (.scalar .localized))
    (empty : f.handle? = none) (read : Scalar.mapOfValue "LocalizedString" v = .ok m) :
    ∃ g, f.assign st v = .ok (g, (st.allocate m).2) ∧ g.shape = f.shape ∧
      g.handle? = some (st.allocate m).1 := by
  obtain ⟨s, rfl, -⟩ := Scalar.eq_of_mapOfValue read
  obtain ⟨t, c⟩ := f
  obtain rfl : t = .optional (.scalar .localized) := optional
  cases c with
  | none =>
    refine ⟨⟨.optional (.scalar .localized), some (st.allocate m).1⟩, ?_, rfl, rfl⟩
    simp only [assign, FieldShape.assign, FieldShape.ofValue, Scalar.ofValue, read]
    rfl
  | some c => cases empty

theorem assign_null (optional : f.shape = .optional (.scalar .localized)) :
    ∃ g, f.assign st .null = .ok (g, st) ∧ g.shape = f.shape ∧ g.handle? = none := by
  obtain ⟨t, c⟩ := f
  obtain rfl : t = .optional (.scalar .localized) := optional
  refine ⟨⟨.optional (.scalar .localized), none⟩, ?_, rfl, rfl⟩
  cases c <;> rfl

/-- What is no map is refused, but for the null of an optional field. -/
theorem assign_eq_error {e : ConversionError} (localized : f.IsLocalized)
    (read : Scalar.mapOfValue "LocalizedString" v = .error e)
    (filled : f.shape = .optional (.scalar .localized) → v.isNull = false) :
    f.assign st v = .error e := by
  obtain ⟨t, c⟩ := f
  obtain rfl | rfl : t = .scalar .localized ∨ t = .optional (.scalar .localized) := localized
  · simp only [assign, FieldShape.assign, Scalar.assign, read]
    rfl
  · have filled := filled rfl
    cases c <;>
    · simp only [assign, FieldShape.assign, FieldShape.ofValue, Scalar.assign, Scalar.ofValue, read,
        filled]
      rfl

end Field

/-- Nothing changes where what is there is put. -/
theorem set_of_getElem? {α : Type} {l : List α} {i : Nat} {x : α} (here : l[i]? = some x) :
    l.set i x = l := by
  obtain ⟨inside, rfl⟩ := List.getElem?_eq_some_iff.1 here
  exact List.set_getElem_self inside

/-- Behind a list stands what is appended, and nothing else changes. -/
theorem getElem?_concat_of_ne {α : Type} {l : List α} {i : Nat} (x : α) (other : i ≠ l.length) :
    (l ++ [x])[i]? = l[i]? := by
  rcases Nat.lt_or_ge i l.length with inside | outside
  · exact List.getElem?_append_left inside
  · have behind : (l ++ [x]).length ≤ i := by
      rw [List.length_append, List.length_singleton]
      omega
    rw [List.getElem?_eq_none behind, List.getElem?_eq_none outside]

theorem Field.handle?_ne_none {f : Field} (required : f.shape = .scalar .localized) :
    f.handle? ≠ none := by
  obtain ⟨t, c⟩ := f
  obtain rfl : t = .scalar .localized := required
  exact Option.some_ne_none c

section

variable {typeName encoded : String} {v : Value}

theorem mapOfValue_text {pairs : List (String × String)} (read : decodePairs encoded = .ok pairs) :
    Scalar.mapOfValue typeName (.text encoded) = .ok (.ofList pairs) := by
  simp only [Scalar.mapOfValue, decodeMap, read, Except.map]

theorem mapOfValue_text_error {e : PairsError} (read : decodePairs encoded = .error e) :
    Scalar.mapOfValue typeName (.text encoded) = .error (.invalid typeName .text (.pairs e)) := by
  simp only [Scalar.mapOfValue, decodeMap, read, Except.map]
  rfl

theorem mapOfValue_of_ne (other : ∀ text, v ≠ .text text) :
    Scalar.mapOfValue typeName v = .error (.unexpected typeName v.kind) := by
  cases v with
  | text s => exact absurd rfl (other s)
  | _ => rfl

end

/-! ## Holders -/

/-- What may lead to an instance: a variable, or a field of a record. -/
inductive Holder where
  | handle (i : Nat)
  | field (j : Nat)
  deriving DecidableEq

/-- Two holders lead to the same. -/
def Holder.Share {α : Type} (leads : Holder → Option α) (a b : Holder) : Prop :=
  ∃ x, leads a = some x ∧ leads b = some x

/-- Variables and fields over one store of localized texts. -/
structure Holdings where
  store : TextStore
  handles : List LocalizedString
  fields : List Field

inductive HoldingStep where
  /-- A new variable with a clone of what the holder holds. -/
  | clone (a : Holder)
  | set (a : Holder) (locale text : String)
  | remove (a : Holder) (locale : String)
  | decode (a : Holder) (encoded : String)
  | assign (j : Nat) (v : Value)

namespace Holdings

variable (s : Holdings)

/-- The instance that a holder leads to. -/
def handle? : Holder → Option LocalizedString
  | .handle i => s.handles[i]?
  | .field j => (s.fields[j]?).bind Field.handle?

def content? (a : Holder) : Option Translations := (s.handle? a).map s.store.read

/-- What a step leads to, unless it is refused. -/
def step? : HoldingStep → Option Holdings
  | .clone a => (s.handle? a).map fun h => { s with handles := s.handles ++ [h] }
  | .set a locale text => (s.handle? a).map fun h => { s with store := h.set s.store locale text }
  | .remove a locale => (s.handle? a).map fun h => { s with store := h.remove s.store locale }
  | .decode a encoded =>
    (s.handle? a).bind fun h =>
      (h.decodeInto s.store encoded).toOption.map fun st => { s with store := st }
  | .assign j v =>
    (s.fields[j]?).bind fun f =>
      (f.assign s.store v).toOption.map fun (g, st) =>
        { s with store := st, fields := s.fields.set j g }

def step (x : HoldingStep) : Holdings := (s.step? x).getD s

def run (xs : List HoldingStep) : Holdings := xs.foldl step s

/-- Every instance that is led to is in the store, and all fields are for localized texts. -/
structure IsSound : Prop where
  valid : ∀ a h, s.handle? a = some h → s.store.Valid h
  localized : ∀ f ∈ s.fields, f.IsLocalized

/-- The content of the instance of `a` is another one now. All that share the instance see that,
nobody else does, and all lead to where they led before. -/
structure Changed (a : Holder) (f : Translations → Translations) (s' : Holdings) : Prop where
  kept : ∀ b, s'.handle? b = s.handle? b
  seen : ∀ b, Holder.Share s.handle? a b → s'.content? b = (s.content? b).map f
  unseen : ∀ b, ¬ Holder.Share s.handle? a b → s'.content? b = s.content? b

/-- Only the holder `a` may lead somewhere else now; all others have what they had. -/
structure Apart (a : Holder) (s' : Holdings) : Prop where
  kept : ∀ b, b ≠ a → s'.handle? b = s.handle? b
  same : ∀ b, b ≠ a → s'.content? b = s.content? b

/-- What the steps do. -/
structure Lawful : Prop where
  clone : ∀ a h, s.handle? a = some h →
    (s.step (.clone a)).handle? (.handle s.handles.length) = some h ∧
      s.Apart (.handle s.handles.length) (s.step (.clone a))
  set : ∀ a h locale text, s.handle? a = some h →
    s.Changed a (·.insert locale text) (s.step (.set a locale text))
  remove : ∀ a h locale, s.handle? a = some h →
    s.Changed a (·.erase locale) (s.step (.remove a locale))
  decode : ∀ a h encoded pairs, s.handle? a = some h → decodePairs encoded = .ok pairs →
    s.Changed a (fun _ => .ofList pairs) (s.step (.decode a encoded))
  /-- A text is written to the instance that the field has. -/
  assign : ∀ j h encoded pairs, s.handle? (.field j) = some h → decodePairs encoded = .ok pairs →
    s.Changed (.field j) (fun _ => .ofList pairs) (s.step (.assign j (.text encoded)))
  /-- A text that cannot be read changes nothing. -/
  refuse : ∀ encoded e, decodePairs encoded = .error e →
    (∀ a, s.step (.decode a encoded) = s) ∧ ∀ j, s.step (.assign j (.text encoded)) = s
  /-- Nor does a value that is neither a text nor null. -/
  mismatch : ∀ j v, (∀ text, v ≠ .text text) → v ≠ .null → s.step (.assign j v) = s
  require : ∀ j f, s.fields[j]? = some f → f.shape = .scalar .localized →
    s.step (.assign j .null) = s
  detach : ∀ j f, s.fields[j]? = some f → f.shape = .optional (.scalar .localized) →
    (s.step (.assign j .null)).handle? (.field j) = none ∧
      s.Apart (.field j) (s.step (.assign j .null))
  /-- A text that is assigned to an empty field makes an instance that nobody led to. -/
  create : ∀ j f encoded pairs, s.fields[j]? = some f → s.handle? (.field j) = none →
    decodePairs encoded = .ok pairs →
    let s' := s.step (.assign j (.text encoded))
    s'.content? (.field j) = some (.ofList pairs) ∧ s.Apart (.field j) s' ∧
      ∃ h, s'.handle? (.field j) = some h ∧ ¬ s.store.Valid h ∧
        ∀ b, b ≠ .field j → s'.handle? b ≠ some h

/-! ## What the steps do -/

section

variable {s : Holdings} {a : Holder} {j : Nat} {f : Field}

theorem handle?_field (here : s.fields[j]? = some f) : s.handle? (.field j) = f.handle? := by
  simp only [handle?, here, Option.bind_some]

theorem exists_field {h : LocalizedString} (held : s.handle? (.field j) = some h) :
    ∃ f, s.fields[j]? = some f ∧ f.handle? = some h :=
  Option.bind_eq_some_iff.1 held

theorem step_assign (here : s.fields[j]? = some f) {v : Value} {g : Field} {st : TextStore}
    (assigned : f.assign s.store v = .ok (g, st)) :
    s.step (.assign j v) = { s with store := st, fields := s.fields.set j g } := by
  simp only [step, step?, here, Option.bind_some, assigned, Except.toOption, Option.map_some,
    Option.getD_some]

theorem step_assign_error {v : Value}
    (refused : ∀ f, s.fields[j]? = some f → ∃ e, f.assign s.store v = .error e) :
    s.step (.assign j v) = s := by
  cases here : s.fields[j]? with
  | none => simp only [step, step?, here, Option.bind_none, Option.getD_none]
  | some f =>
    obtain ⟨e, refused⟩ := refused f here
    simp only [step, step?, here, Option.bind_some, refused, Except.toOption, Option.map_none,
      Option.getD_none]

/-- Writing to an instance is seen by those that lead to it. -/
theorem changed_write (sound : s.IsSound) {h : LocalizedString} (held : s.handle? a = some h)
    (f : Translations → Translations) :
    s.Changed a f { s with store := s.store.write h (f (s.store.read h)) } where
  kept b := by cases b <;> rfl
  seen b shared := by
    obtain ⟨k, first, second⟩ := shared
    obtain rfl : h = k := Option.some.inj (held.symm.trans first)
    have kept : Holdings.handle? { s with store := s.store.write h (f (s.store.read h)) } b =
      some h := by cases b <;> exact second
    simp only [content?, kept, second, Option.map_some,
      TextStore.read_write_self (sound.valid b h second)]
  unseen b apart := by
    have kept : Holdings.handle? { s with store := s.store.write h (f (s.store.read h)) } b =
      s.handle? b := by cases b <;> rfl
    unfold content?
    rw [kept]
    cases leads : s.handle? b with
    | none => rfl
    | some k =>
      have other : h ≠ k := fun same => apart ⟨h, held, same ▸ leads⟩
      exact congrArg some (s.store.read_write_ne other _)

/-- A field that leads somewhere else leaves the others alone, where the store only grows. -/
theorem apart_set (sound : s.IsSound) (g : Field) {st : TextStore}
    (same : ∀ h, s.store.Valid h → st.read h = s.store.read h) :
    s.Apart (.field j) { s with store := st, fields := s.fields.set j g } := by
  have kept (b : Holder) (other : b ≠ .field j) :
      Holdings.handle? { s with store := st, fields := s.fields.set j g } b = s.handle? b := by
    cases b with
    | handle i => rfl
    | field k =>
      have apart : j ≠ k := fun eq => other (eq ▸ rfl)
      simp only [handle?, List.getElem?_set_ne apart]
  refine ⟨kept, fun b other => ?_⟩
  unfold content?
  rw [kept b other]
  cases leads : s.handle? b with
  | none => rfl
  | some h => exact congrArg some (same h (sound.valid b h leads))

theorem handle?_set (here : s.fields[j]? = some f) (g : Field) (st : TextStore) :
    Holdings.handle? { s with store := st, fields := s.fields.set j g } (.field j) =
      g.handle? := by
  have inside := (List.getElem?_eq_some_iff.1 here).1
  exact handle?_field (List.getElem?_set_self inside)

end

/-- What each kind of step does. -/
theorem lawful {s : Holdings} (sound : s.IsSound) : s.Lawful where
  clone a h held := by
    have next : s.step (.clone a) = { s with handles := s.handles ++ [h] } := by
      simp only [step, step?, held, Option.map_some, Option.getD_some]
    have kept (b : Holder) (other : b ≠ .handle s.handles.length) :
        Holdings.handle? { s with handles := s.handles ++ [h] } b = s.handle? b := by
      cases b with
      | handle i =>
        have apart : i ≠ s.handles.length := fun eq => other (eq ▸ rfl)
        exact getElem?_concat_of_ne h apart
      | field j => rfl
    rw [next]
    refine ⟨List.getElem?_concat_length, kept, fun b other => ?_⟩
    simp only [content?, kept b other]
  set a h locale text held := by
    have next : s.step (.set a locale text) =
        { s with store := s.store.write h ((s.store.read h).insert locale text) } := by
      simp only [step, step?, held, Option.map_some, Option.getD_some, LocalizedString.set]
    rw [next]
    exact changed_write sound held (·.insert locale text)
  remove a h locale held := by
    have next : s.step (.remove a locale) =
        { s with store := s.store.write h ((s.store.read h).erase locale) } := by
      simp only [step, step?, held, Option.map_some, Option.getD_some, LocalizedString.remove]
    rw [next]
    exact changed_write sound held (·.erase locale)
  decode a h encoded pairs held read := by
    have next : s.step (.decode a encoded) =
        { s with store := s.store.write h (.ofList pairs) } := by
      simp only [step, step?, held, Option.bind_some, LocalizedString.decodeInto, decodeMap, read,
        Except.map, Except.toOption, Option.map_some, Option.getD_some]
    rw [next]
    exact changed_write sound held fun _ => .ofList pairs
  assign j h encoded pairs held read := by
    obtain ⟨f, here, leads⟩ := exists_field held
    have localized := sound.localized f (List.mem_of_getElem? here)
    have next := step_assign here
      (Field.assign_of_handle? s.store localized leads (mapOfValue_text read))
    rw [set_of_getElem? here] at next
    rw [next]
    exact changed_write sound held fun _ => .ofList pairs
  refuse encoded e read := by
    refine ⟨fun a => ?_, fun j => step_assign_error fun f here => ?_⟩
    · cases held : s.handle? a with
      | none => simp only [step, step?, held, Option.bind_none, Option.getD_none]
      | some h =>
        simp only [step, step?, held, Option.bind_some, LocalizedString.decodeInto, decodeMap, read,
          Except.map, Except.toOption, Option.map_none, Option.getD_none]
    · have localized := sound.localized f (List.mem_of_getElem? here)
      exact ⟨_, Field.assign_eq_error s.store localized (mapOfValue_text_error read) fun _ => rfl⟩
  mismatch j v text filled := by
    refine step_assign_error fun f here => ?_
    have localized := sound.localized f (List.mem_of_getElem? here)
    refine ⟨_, Field.assign_eq_error s.store localized (mapOfValue_of_ne text) fun _ => ?_⟩
    cases v with
    | null => exact absurd rfl filled
    | _ => rfl
  require j f here shape := by
    refine step_assign_error fun g there => ?_
    obtain rfl : f = g := Option.some.inj (here.symm.trans there)
    refine ⟨_, Field.assign_eq_error s.store (.inl shape) rfl fun optional => ?_⟩
    rw [shape] at optional
    cases optional
  detach j f here optional := by
    obtain ⟨g, assigned, -, empty⟩ := Field.assign_null s.store optional
    rw [step_assign here assigned]
    exact ⟨(handle?_set here g _).trans empty, apart_set sound g fun _ _ => rfl⟩
  create j f encoded pairs here none read := by
    have empty := (handle?_field here).symm.trans none
    have optional : f.shape = .optional (.scalar .localized) := by
      rcases sound.localized f (List.mem_of_getElem? here) with required | optional
      · exact absurd empty (Field.handle?_ne_none required)
      · exact optional
    obtain ⟨g, assigned, -, leads⟩ := Field.assign_of_handle?_eq_none s.store optional empty
      (mapOfValue_text read)
    intro s'
    have next : s' = _ := step_assign here assigned
    rw [next]
    have own := (handle?_set here g (s.store.allocate (.ofList pairs)).2).trans leads
    have apart := apart_set (j := j) sound g fun h valid =>
      TextStore.read_allocate_of_valid valid (.ofList pairs)
    refine ⟨?_, apart, _, own, s.store.not_valid_allocate _, fun b other shared => ?_⟩
    · simp only [content?, own, Option.map_some, TextStore.read_allocate]
    · rw [apart.kept b other] at shared
      exact s.store.not_valid_allocate _ (sound.valid b _ shared)

end Holdings

end DataMapper
