import DataMapper.Proofs.Field.Sharing
import Mathlib.Logic.Function.Basic

/-!
# Where localized texts come from

Which holders share an instance can be told from the way they came by it: the instance was there at
the start, or a text was assigned to a field that had none, and a clone leads to where its original
leads.

## Main definitions

* `Lineage` — where the instances of all holders come from, told from the steps alone.
* `Traces` — holdings that a lineage tells of.

## Main statements

* `Traces.run` — the holders lead to what their lineage tells, after all steps.
-/

namespace DataMapper

open Text

/-! ## Where instances come from -/

/-- An instance was there at the start, or it came about in a step. -/
inductive Origin where
  | start (h : LocalizedString)
  | made (n : Nat)
  deriving DecidableEq

/-- A field as far as its instance goes. -/
structure Slot where
  optional : Bool
  origin? : Option Origin

namespace Slot

def shape (slot : Slot) : FieldShape :=
  if slot.optional then .optional (.scalar .localized) else .scalar .localized

/-- A null empties a field that may be empty. A text that can be read fills an empty field with what
comes about in the step, and leaves the instance to any other field. -/
def assign (n : Nat) (v : Value) (slot : Slot) : Slot :=
  match v with
  | .null => if slot.optional then { slot with origin? := none } else slot
  | .text s =>
    if (decodePairs s).isOk then { slot with origin? := some (slot.origin?.getD (.made n)) }
    else slot
  | _ => slot

theorem assign_of_ok {v : Value} {m : Translations} {typeName : String}
    (read : Scalar.mapOfValue typeName v = .ok m) (n : Nat) (slot : Slot) :
    slot.assign n v = { slot with origin? := some (slot.origin?.getD (.made n)) } := by
  obtain ⟨s, rfl, decoded⟩ := Scalar.eq_of_mapOfValue read
  unfold decodeMap at decoded
  obtain ⟨pairs, read, -⟩ := Except.exists_of_map decoded
  simp only [assign, read, Except.isOk, Except.toBool, if_true]

theorem assign_of_error {v : Value} {e : ConversionError} {typeName : String}
    (read : Scalar.mapOfValue typeName v = .error e) (n : Nat) {slot : Slot}
    (filled : slot.optional = true → v ≠ .null) : slot.assign n v = slot := by
  unfold assign
  split
  · cases optional : slot.optional with
    | true => exact absurd rfl (filled optional)
    | false => rfl
  · next s =>
    cases decoded : decodePairs s with
    | error e => rfl
    | ok pairs =>
      rw [mapOfValue_text decoded] at read
      cases read
  · rfl

end Slot

/-- A field at the start. -/
def Field.slot (f : Field) : Slot :=
  match f.shape with
  | .optional _ => ⟨true, f.handle?.map .start⟩
  | _ => ⟨false, f.handle?.map .start⟩

/-- Where the instances of variables and fields come from. -/
structure Lineage where
  handles : List Origin
  fields : List Slot

namespace Lineage

def origin? (d : Lineage) : Holder → Option Origin
  | .handle i => d.handles[i]?
  | .field j => (d.fields[j]?).bind Slot.origin?

/-- The `n`-th step. A clone comes from where its original comes from. -/
def step (n : Nat) (d : Lineage) : HoldingStep → Lineage
  | .clone a => { d with handles := d.handles ++ (d.origin? a).toList }
  | .assign j v =>
    match d.fields[j]? with
    | some slot => { d with fields := d.fields.set j (slot.assign n v) }
    | none => d
  | _ => d

/-- The steps from the `n`-th one on. -/
def run (n : Nat) (d : Lineage) : List HoldingStep → Lineage
  | [] => d
  | x :: xs => run (n + 1) (d.step n x) xs

end Lineage

def Holdings.lineage (s : Holdings) : Lineage :=
  ⟨s.handles.map .start, s.fields.map Field.slot⟩

/-- Before the `n`-th step each holder leads to the place of the origin that the lineage tells, and
different origins have different places. -/
structure Traces (place : Origin → LocalizedString) (d : Lineage) (n : Nat) (s : Holdings) :
    Prop where
  leads : ∀ a, s.handle? a = (d.origin? a).map place
  length : s.handles.length = d.handles.length
  shapes : ∀ j : Nat, (s.fields[j]?).map Field.shape = (d.fields[j]?).map Slot.shape
  inj : ∀ a b o p, d.origin? a = some o → d.origin? b = some p → place o = place p → o = p
  valid : ∀ a o, d.origin? a = some o → s.store.Valid (place o)
  earlier : ∀ a k, d.origin? a = some (.made k) → k < n

namespace Traces

variable {place : Origin → LocalizedString} {d : Lineage} {n : Nat} {s : Holdings}

theorem start (sound : s.IsSound) :
    Traces (fun o => match o with | .start h => h | .made _ => ⟨0⟩) s.lineage 0 s := by
  have told (a : Holder) : s.lineage.origin? a = (s.handle? a).map .start := by
    cases a with
    | handle i => simp only [Lineage.origin?, Holdings.lineage, Holdings.handle?, List.getElem?_map]
    | field j =>
      simp only [Lineage.origin?, Holdings.lineage, Holdings.handle?, List.getElem?_map]
      cases s.fields[j]? with
      | none => rfl
      | some f =>
        simp only [Option.map_some, Option.bind_some, Field.slot]
        split <;> rfl
  have origin {a : Holder} {o : Origin} (h : s.lineage.origin? a = some o) :
      ∃ k, o = .start k ∧ s.handle? a = some k := by
    rw [told] at h
    obtain ⟨k, held, rfl⟩ := Option.map_eq_some_iff.1 h
    exact ⟨k, rfl, held⟩
  refine ⟨fun a => ?_, (List.length_map _).symm, fun j => ?_, ?_, ?_, ?_⟩
  · rw [told, Option.map_map]
    exact Option.map_id'.symm
  · simp only [Holdings.lineage, List.getElem?_map, Option.map_map]
    cases here : s.fields[j]? with
    | none => rfl
    | some f =>
      have localized := sound.localized f (List.mem_of_getElem? here)
      refine congrArg some ?_
      rcases localized with shape | shape <;>
        simp only [Function.comp_apply, Field.slot, shape, Slot.shape] <;> rfl
  · intro a b o p first second same
    obtain ⟨h, rfl, -⟩ := origin first
    obtain ⟨k, rfl, -⟩ := origin second
    exact congrArg Origin.start same
  · intro a o h
    obtain ⟨k, rfl, held⟩ := origin h
    exact sound.valid a k held
  · intro a k h
    obtain ⟨_, made, -⟩ := origin h
    cases made

theorem isSound (t : Traces place d n s) : s.IsSound where
  valid a h held := by
    rw [t.leads] at held
    obtain ⟨o, told, rfl⟩ := Option.map_eq_some_iff.1 held
    exact t.valid a o told
  localized f hf := by
    obtain ⟨j, here⟩ := List.mem_iff_getElem?.1 hf
    have shape := t.shapes j
    rw [here] at shape
    obtain ⟨slot, -, same⟩ := Option.map_eq_some_iff.1 shape.symm
    unfold Slot.shape at same
    split at same
    · exact .inr same.symm
    · exact .inl same.symm

/-- Who shares an instance shares its origin. -/
theorem share_iff (t : Traces place d n s) (a b : Holder) :
    Holder.Share s.handle? a b ↔ Holder.Share d.origin? a b := by
  constructor
  · rintro ⟨h, first, second⟩
    rw [t.leads] at first second
    obtain ⟨o, told, rfl⟩ := Option.map_eq_some_iff.1 first
    obtain ⟨p, told', same⟩ := Option.map_eq_some_iff.1 second
    obtain rfl := t.inj b a p o told' told same
    exact ⟨p, told, told'⟩
  · rintro ⟨o, first, second⟩
    refine ⟨place o, ?_, ?_⟩ <;> simp only [t.leads, first, second, Option.map_some]

theorem later (t : Traces place d n s) : Traces place d (n + 1) s :=
  { t with earlier := fun a k told => Nat.lt_succ_of_lt (t.earlier a k told) }

/-- The contents of the instances do not matter. -/
theorem write (t : Traces place d n s) (h : LocalizedString) (m : Translations) :
    Traces place d n { s with store := s.store.write h m } where
  leads a := by
    rw [← t.leads]
    cases a <;> rfl
  length := t.length
  shapes := t.shapes
  inj := t.inj
  valid a o told :=
    TextStore.valid_mono (Nat.le_of_eq (s.store.length_write h m).symm) (t.valid a o told)
  earlier := t.earlier

/-- A variable with a clone. -/
theorem clone (t : Traces place d n s) {a : Holder} {o : Origin} (told : d.origin? a = some o) :
    Traces place { d with handles := d.handles ++ [o] } n
      { s with handles := s.handles ++ [place o] } := by
  -- the new variable stands for `a`
  have from_ (b : Holder) : ∃ c,
      Lineage.origin? { d with handles := d.handles ++ [o] } b = d.origin? c ∧
        Holdings.handle? { s with handles := s.handles ++ [place o] } b = s.handle? c := by
    cases b with
    | field j => exact ⟨.field j, rfl, rfl⟩
    | handle i =>
      by_cases own : i = d.handles.length
      · subst own
        refine ⟨a, List.getElem?_concat_length.trans told.symm, ?_⟩
        rw [t.leads, told, ← t.length]
        exact List.getElem?_concat_length
      · exact ⟨.handle i, getElem?_concat_of_ne o own,
          getElem?_concat_of_ne (place o) (t.length ▸ own)⟩
  refine ⟨fun b => ?_, by simp [t.length], t.shapes, ?_, ?_, ?_⟩
  · obtain ⟨c, told, held⟩ := from_ b
    rw [told, held, t.leads]
  · intro b b' o p first second
    obtain ⟨c, told, -⟩ := from_ b
    obtain ⟨c', told', -⟩ := from_ b'
    exact t.inj c c' o p (told ▸ first) (told' ▸ second)
  · intro b o h
    obtain ⟨c, told, -⟩ := from_ b
    exact t.valid c o (told ▸ h)
  · intro b k h
    obtain ⟨c, told, -⟩ := from_ b
    exact t.earlier c k (told ▸ h)

/-- A field with another content. What it leads to was led to before, or has just come about. -/
theorem put (t : Traces place d n s) {j : Nat} {f g : Field} {slot slot' : Slot} {st : TextStore}
    {place' : Origin → LocalizedString} (here : s.fields[j]? = some f)
    (told : d.fields[j]? = some slot) (shape : g.shape = slot'.shape)
    (leads : g.handle? = slot'.origin?.map place')
    (agrees : ∀ a o, d.origin? a = some o → place' o = place o)
    (own : ∀ o, slot'.origin? = some o → st.Valid (place' o) ∧
      ((∃ a, d.origin? a = some o) ∨ o = .made n ∧ ¬ s.store.Valid (place' o)))
    (grows : s.store.instances.length ≤ st.instances.length) :
    Traces place' { d with fields := d.fields.set j slot' } (n + 1)
      { s with store := st, fields := s.fields.set j g } := by
  -- what is told of a holder was told of one before, or of the field
  have from_ (b : Holder) :
      (b = .field j ∧
        Lineage.origin? { d with fields := d.fields.set j slot' } b = slot'.origin? ∧
          Holdings.handle? { s with store := st, fields := s.fields.set j g } b = g.handle?) ∨
        Lineage.origin? { d with fields := d.fields.set j slot' } b = d.origin? b ∧
          Holdings.handle? { s with store := st, fields := s.fields.set j g } b = s.handle? b := by
    cases b with
    | handle i => exact .inr ⟨rfl, rfl⟩
    | field k =>
      by_cases same : j = k
      · subst same
        have inside := (List.getElem?_eq_some_iff.1 told).1
        refine .inl ⟨rfl, ?_, Holdings.handle?_set here g st⟩
        simp only [Lineage.origin?, List.getElem?_set_self inside, Option.bind_some]
      · refine .inr ⟨?_, ?_⟩
        · simp only [Lineage.origin?, List.getElem?_set_ne same]
        · simp only [Holdings.handle?, List.getElem?_set_ne same]
  have origin {b : Holder} {o : Origin}
      (h : Lineage.origin? { d with fields := d.fields.set j slot' } b = some o) :
      st.Valid (place' o) ∧
        ((∃ a, d.origin? a = some o) ∨ o = .made n ∧ ¬ s.store.Valid (place' o)) := by
    rcases from_ b with ⟨-, at_, -⟩ | ⟨at_, -⟩
    · exact own o (at_ ▸ h)
    · have before : d.origin? b = some o := at_ ▸ h
      refine ⟨?_, .inl ⟨b, before⟩⟩
      rw [agrees b o before]
      exact TextStore.valid_mono grows (t.valid b o before)
  refine ⟨fun b => ?_, t.length, fun k => ?_, ?_, fun b o h => (origin h).1, ?_⟩
  · rcases from_ b with ⟨-, at_, held⟩ | ⟨at_, held⟩
    · rw [at_, held, leads]
    · rw [at_, held, t.leads]
      exact Option.map_congr fun o h => (agrees b o h).symm
  · by_cases same : j = k
    · subst same
      rw [List.getElem?_set_self (List.getElem?_eq_some_iff.1 here).1,
        List.getElem?_set_self (List.getElem?_eq_some_iff.1 told).1]
      exact congrArg some shape
    · rw [List.getElem?_set_ne same, List.getElem?_set_ne same]
      exact t.shapes k
  · intro a b o p first second same
    rcases (origin first).2 with ⟨a', before⟩ | ⟨made, fresh⟩ <;>
      rcases (origin second).2 with ⟨b', before'⟩ | ⟨made', fresh'⟩
    · rw [agrees a' o before, agrees b' p before'] at same
      exact t.inj a' b' o p before before' same
    · rw [← same, agrees a' o before] at fresh'
      exact absurd (t.valid a' o before) fresh'
    · rw [same, agrees b' p before'] at fresh
      exact absurd (t.valid b' p before') fresh
    · exact made.trans made'.symm
  · intro b k h
    rcases (origin h).2 with ⟨a, before⟩ | ⟨made, -⟩
    · exact Nat.lt_succ_of_lt (t.earlier a k before)
    · cases made
      exact Nat.lt_succ_self n

theorem assign (t : Traces place d n s) (j : Nat) (v : Value) :
    ∃ place', Traces place' (d.step n (.assign j v)) (n + 1) (s.step (.assign j v)) := by
  have shape := t.shapes j
  cases told : d.fields[j]? with
  | none =>
    rw [told] at shape
    have none : s.fields[j]? = none := Option.map_eq_none_iff.1 shape
    have kept : s.step (.assign j v) = s :=
      Holdings.step_assign_error fun f here => by rw [none] at here; cases here
    refine ⟨place, ?_⟩
    simp only [Lineage.step, told, kept]
    exact t.later
  | some slot =>
    rw [told] at shape
    obtain ⟨f, here, shape⟩ := Option.map_eq_some_iff.1 shape
    have localized := t.isSound.localized f (List.mem_of_getElem? here)
    have leads : f.handle? = slot.origin?.map place := by
      have own := t.leads (.field j)
      rwa [Holdings.handle?_field here, Lineage.origin?, told, Option.bind_some] at own
    have before {o : Origin} (h : slot.origin? = some o) : d.origin? (.field j) = some o := by
      rw [Lineage.origin?, told, Option.bind_some, h]
    have optional_iff : f.shape = .optional (.scalar .localized) ↔ slot.optional = true := by
      rw [shape, Slot.shape]
      cases slot.optional <;> simp
    simp only [Lineage.step, told]
    cases read : Scalar.mapOfValue "LocalizedString" v with
    | ok m =>
      rw [Slot.assign_of_ok read]
      cases origin : slot.origin? with
      | some o =>
        -- the instance is written to
        have held : f.handle? = some (place o) := by rw [leads, origin, Option.map_some]
        have assigned := Field.assign_of_handle? s.store localized held read
        rw [Holdings.step_assign here assigned]
        refine ⟨place, t.put here told shape (by rw [held]; rfl) (fun _ _ _ => rfl) ?_ ?_⟩
        · rintro p same
          obtain rfl : o = p := Option.some.inj same
          have valid := t.valid _ o (before origin)
          have grows := Nat.le_of_eq (s.store.length_write (place o) m).symm
          exact ⟨TextStore.valid_mono grows valid, .inl ⟨_, before origin⟩⟩
        · exact Nat.le_of_eq (s.store.length_write (place o) m).symm
      | none =>
        -- an instance comes about
        have empty : f.handle? = none := by rw [leads, origin, Option.map_none]
        have optional : f.shape = .optional (.scalar .localized) :=
          localized.resolve_left fun required => Field.handle?_ne_none required empty
        obtain ⟨g, assigned, kept, fresh⟩ :=
          Field.assign_of_handle?_eq_none s.store optional empty read
        rw [Holdings.step_assign here assigned]
        refine ⟨Function.update place (.made n) (s.store.allocate m).1,
          t.put here told (kept.trans shape) ?_ ?_ ?_ ?_⟩
        · rw [fresh, Option.getD_none, Option.map_some, Function.update_self]
        · intro a o told
          refine Function.update_of_ne ?_ _ _
          rintro rfl
          exact Nat.lt_irrefl n (t.earlier a n told)
        · rintro o same
          obtain rfl : .made n = o := Option.some.inj same
          rw [Function.update_self]
          exact ⟨s.store.valid_allocate m, .inr ⟨rfl, s.store.not_valid_allocate m⟩⟩
        · rw [TextStore.length_allocate]
          exact Nat.le_succ _
    | error e =>
      by_cases emptied : slot.optional = true ∧ v = .null
      · obtain ⟨optional, rfl⟩ := emptied
        obtain ⟨g, assigned, kept, empty⟩ :=
          Field.assign_null s.store (optional_iff.2 optional)
        rw [Holdings.step_assign here assigned]
        simp only [Slot.assign, optional, if_true]
        refine ⟨place, t.put here told (kept.trans (optional_iff.2 optional)) empty
          (fun _ _ _ => rfl) ?_ (Nat.le_refl _)⟩
        rintro o ⟨⟩
      · have filled : slot.optional = true → v ≠ .null := fun optional null =>
          emptied ⟨optional, null⟩
        have kept : s.step (.assign j v) = s := by
          refine Holdings.step_assign_error fun f' here' => ?_
          obtain rfl : f = f' := Option.some.inj (here.symm.trans here')
          refine ⟨e, Field.assign_eq_error s.store localized read fun optional => ?_⟩
          have other := filled (optional_iff.1 optional)
          cases v with
          | null => exact absurd rfl other
          | _ => rfl
        rw [kept, Slot.assign_of_error read n filled, set_of_getElem? told]
        exact ⟨place, t.later⟩

/-- A step leads on as the lineage tells. -/
theorem step (t : Traces place d n s) (x : HoldingStep) :
    ∃ place', Traces place' (d.step n x) (n + 1) (s.step x) := by
  cases x with
  | assign j v => exact t.assign j v
  | clone a =>
    refine ⟨place, ?_⟩
    have leads := t.leads a
    cases told : d.origin? a with
    | none =>
      rw [told] at leads
      simp only [Lineage.step, told, Option.toList_none, List.append_nil, Holdings.step,
        Holdings.step?, leads, Option.map_none, Option.getD_none]
      exact t.later
    | some o =>
      rw [told] at leads
      simp only [Lineage.step, told, Option.toList_some, Holdings.step, Holdings.step?, leads,
        Option.map_some, Option.getD_some]
      exact (t.clone told).later
  | set a locale text =>
    refine ⟨place, ?_⟩
    simp only [Lineage.step, Holdings.step, Holdings.step?]
    cases s.handle? a with
    | none => exact t.later
    | some h => exact (t.write h _).later
  | remove a locale =>
    refine ⟨place, ?_⟩
    simp only [Lineage.step, Holdings.step, Holdings.step?]
    cases s.handle? a with
    | none => exact t.later
    | some h => exact (t.write h _).later
  | decode a encoded =>
    refine ⟨place, ?_⟩
    simp only [Lineage.step, Holdings.step, Holdings.step?]
    cases s.handle? a with
    | none => exact t.later
    | some h =>
      simp only [Option.bind_some, LocalizedString.decodeInto]
      cases decodeMap encoded with
      | error e => exact t.later
      | ok m => exact (t.write h m).later

theorem run (t : Traces place d n s) (xs : List HoldingStep) :
    ∃ place', Traces place' (d.run n xs) (n + xs.length) (s.run xs) := by
  induction xs generalizing place d n s with
  | nil => exact ⟨place, t⟩
  | cons x xs ih =>
    obtain ⟨next, t'⟩ := t.step x
    obtain ⟨last, reached⟩ := ih t'
    rw [Nat.succ_add_eq_add_succ] at reached
    exact ⟨last, reached⟩

end Traces

/-- After all steps, two holders lead to one instance exactly if the instances of both have the same
origin; and whatever step is taken next, a change is seen by those that share the instance, a text
that cannot be read changes nothing, a null detaches an optional field alone, and a text that is
assigned to an empty field makes a new instance. -/
theorem Holdings.sharing_run {s : Holdings} (sound : s.IsSound) (xs : List HoldingStep) :
    (∀ a b, Holder.Share (s.run xs).handle? a b ↔
      Holder.Share (s.lineage.run 0 xs).origin? a b) ∧ (s.run xs).Lawful := by
  obtain ⟨place, reached⟩ := (Traces.start sound).run xs
  exact ⟨reached.share_iff, lawful reached.isSound⟩

/-- A variable and an optional field share the first text, and another field has the second one. -/
def signHoldings : Holdings where
  store := ⟨[.insert .empty "en" "in", .insert .empty "en" "out"]⟩
  handles := [⟨0⟩]
  fields :=
    [⟨.optional (.scalar .localized), some (⟨0⟩ : LocalizedString)⟩,
      ⟨.scalar .localized, (⟨1⟩ : LocalizedString)⟩]

/-- The optional field is cloned, emptied and filled again; then the clone is changed. -/
def signSteps : List HoldingStep :=
  [.clone (.field 0), .assign 0 .null, .assign 0 (.text "en=new"), .set (.handle 1) "en" "exit"]

theorem isSound_signHoldings : signHoldings.IsSound where
  valid a h held := by
    match a with
    | .handle 0 | .field 0 => cases held; exact Nat.zero_lt_two
    | .field 1 => cases held; exact Nat.one_lt_two
    | .handle (i + 1) | .field (j + 2) => cases held
  localized f hf := by
    simp only [signHoldings, List.mem_cons, List.not_mem_nil, or_false] at hf
    rcases hf with rfl | rfl
    · exact .inr rfl
    · exact .inl rfl

/-- The variable sees what is changed through the clone; the field does not, for it has a text of
its own by now. -/
theorem Holdings.sharing_run_detached :
    signHoldings.IsSound ∧
      let s := signHoldings.run signSteps
      Holder.Share s.handle? (.handle 0) (.handle 1) ∧
        ¬ Holder.Share s.handle? (.handle 0) (.field 0) ∧
        s.content? (.handle 0) = some (.insert .empty "en" "exit") ∧
        s.content? (.field 0) = some (.insert .empty "en" "new") ∧
        s.content? (.field 1) = some (.insert .empty "en" "out") ∧ s.Lawful := by
  obtain ⟨share, lawful⟩ := sharing_run isSound_signHoldings signSteps
  refine ⟨isSound_signHoldings, (share _ _).2 ⟨.start ⟨0⟩, rfl, rfl⟩, fun shared => ?_, ?_⟩
  · obtain ⟨o, first, second⟩ := (share _ _).1 shared
    cases first
    cases second
  · exact ⟨by decide, by decide, by decide, lawful⟩

end DataMapper
