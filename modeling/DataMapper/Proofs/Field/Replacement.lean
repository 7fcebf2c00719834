import DataMapper.Proofs.Field.Holding

/-!
# Assignment in place and replacement

A program assigns in place: what is present in an optional field is assigned to, a localized text is
emptied and filled again entry by entry, and any other content is replaced once its successor has
been made. Step by step this leaves what `FieldShape.assign` gives, and after an error nothing has
changed. Where it succeeds the field has the value that a content made from the assigned value has,
whatever it held before, and it fails just where no content can be made.

## Main definitions

* `Assigned` — an assignment that has run: its outcome, and the content and the store that it left.
* `FieldShape.assignInPlace` — the run of an assignment.

## Main statements

* `FieldShape.assignInPlace_eq` — the run leaves what `FieldShape.assign` gives.
* `FieldShape.assign_replaces` — assigning and replacing agree.
-/

namespace DataMapper

/-! ## Emptied and filled texts -/

namespace LocalizedString

/-- The instance emptied, and the entries put into it one after the other. -/
def refill (h : LocalizedString) (st : TextStore) (entries : List (String × String)) : TextStore :=
  entries.foldl (fun st e => h.set st e.1 e.2) (st.write h .empty)

theorem set_write (h : LocalizedString) (st : TextStore) (m : Translations)
    (locale text : String) :
    h.set (st.write h m) locale text = st.write h (m.insert locale text) := by
  by_cases valid : st.Valid h
  · rw [set, TextStore.read_write_self valid]
    simp [TextStore.write, List.set_set]
  · -- a handle without an instance is written to in vain
    have vain (n : Translations) : st.write h n = st := by
      simp only [TextStore.write, List.set_eq_of_length_le (Nat.le_of_not_lt valid)]
    rw [set, vain, vain, vain]

theorem foldl_set_write (h : LocalizedString) (st : TextStore) (m : Translations)
    (entries : List (String × String)) :
    entries.foldl (fun st e => h.set st e.1 e.2) (st.write h m) =
      st.write h (entries.foldl (fun m e => m.insert e.1 e.2) m) := by
  induction entries generalizing m with
  | nil => rfl
  | cons e entries ih => rw [List.foldl_cons, set_write, ih, List.foldl_cons]

/-- Filling an emptied instance entry by entry writes the map of all entries. -/
theorem refill_eq (h : LocalizedString) (st : TextStore) (entries : List (String × String)) :
    h.refill st entries = st.write h (.ofList entries) :=
  h.foldl_set_write st .empty entries

end LocalizedString

/-! ## Assignments that run -/

/-- An assignment to a content of type `α` that has run: its outcome, and the content and the store
that it left. -/
structure Assigned (α : Type) where
  result : Except ConversionError Unit
  content : α
  store : TextStore

namespace Assigned

variable {α β : Type}

/-- A content replaced by the one that has been made, and left alone after an error. -/
def replacing (st : TextStore) (c : α) (made : Except ConversionError (α × TextStore)) :
    Assigned α :=
  match made with
  | .ok (c', st') => ⟨.ok (), c', st'⟩
  | .error e => ⟨.error e, c, st⟩

/-- What has been assigned to a part of a content, seen from the whole. -/
def map (f : α → β) (a : Assigned α) : Assigned β :=
  ⟨a.result, f a.content, a.store⟩

theorem map_replacing (f : α → β) (st : TextStore) (c : α)
    (made : Except ConversionError (α × TextStore)) :
    (replacing st c made).map f = replacing st (f c) (made.map fun (c, st) => (f c, st)) := by
  cases made <;> rfl

end Assigned

open Assigned (replacing map_replacing)

namespace Scalar

/-- The instance of a localized text is emptied and filled once the pairs have been decoded;
everything else is replaced. -/
def assignInPlace (st : TextStore) (s : Scalar) (c : s.Content) (v : Value) :
    Assigned s.Content :=
  match s, c with
  | localized, h =>
    match v with
    | .text encoded =>
      match Text.decodePairs encoded with
      | .ok entries => ⟨.ok (), h, h.refill st entries⟩
      | .error e => ⟨.error (.invalid "LocalizedString" v.kind (.pairs e)), h, st⟩
    | v => ⟨.error (.unexpected "LocalizedString" v.kind), h, st⟩
  | s, c => replacing st c (s.ofValue st v)

theorem assignInPlace_eq (st : TextStore) (s : Scalar) (c : s.Content) (v : Value) :
    s.assignInPlace st c v = replacing st c (s.assign st c v) := by
  cases s with
  | localized =>
    cases v with
    | text encoded =>
      simp only [assignInPlace, assign, mapOfValue, decodeMap]
      cases Text.decodePairs encoded with
      | ok entries =>
        exact congrArg (Assigned.mk (.ok ()) c) (LocalizedString.refill_eq c st entries)
      | error e => rfl
    | null | bool | int | float | decimal | char | bytes | date | time | timestamp | timestampUtc
    | uuid | json | enumName | serverNow => rfl
  | integer | single | double | bool | decimal | char | string | bytes | date | time | timestamp
  | timestampUtc | uuid | json | properties | enumeration => rfl

/-- Whether a content can be made from a value does not depend on what is in the store. -/
theorem ofValue_eq_error_congr {st st₀ : TextStore} {s : Scalar} {v : Value}
    {e : ConversionError} : s.ofValue st v = .error e ↔ s.ofValue st₀ v = .error e := by
  cases s with
  | integer k =>
    cases v with
    | int n =>
      change (if h : k.low ≤ n.toInt ∧ n.toInt ≤ k.high then _ else _ : Except _ _) = _ ↔
        (if h : k.low ≤ n.toInt ∧ n.toInt ≤ k.high then _ else _ : Except _ _) = _
      split
      · exact iff_of_false (by rintro ⟨⟩) (by rintro ⟨⟩)
      · rfl
    | _ => rfl
  | properties | localized | enumeration =>
    exact Except.map_eq_error_iff.trans Except.map_eq_error_iff.symm
  | single | double | bool | decimal | char | string | bytes | date | time | timestamp
  | timestampUtc | uuid | json =>
    cases v <;> first | exact Iff.rfl | exact iff_of_false (by rintro ⟨⟩) (by rintro ⟨⟩)

theorem assign_eq_error_iff {st st₀ : TextStore} {s : Scalar} {c : s.Content} {v : Value}
    {e : ConversionError} : s.assign st c v = .error e ↔ s.ofValue st₀ v = .error e := by
  cases s with
  | localized | properties | enumeration =>
    exact Except.map_eq_error_iff.trans Except.map_eq_error_iff.symm
  | integer | single | double | bool | decimal | char | string | bytes | date | time | timestamp
  | timestampUtc | uuid | json => exact ofValue_eq_error_congr

end Scalar

namespace FieldShape

/-- What is present in an optional field is assigned to in place; everything else is replaced. -/
def assignInPlace (st : TextStore) : (t : FieldShape) → t.Content → Value → Assigned t.Content
  | scalar s, c, v => s.assignInPlace st c v
  | optional t, some c, v =>
    if v.isNull then ⟨.ok (), none, st⟩ else (t.assignInPlace st c v).map some
  | optional t, none, v => replacing st none ((optional t).ofValue st v)
  | serverTime t, c, v => replacing st c ((serverTime t).ofValue st v)

/-- Running an assignment step by step leaves the content and the store that it gives, and those
from before where it gives none. -/
theorem assignInPlace_eq (st : TextStore) (t : FieldShape) (c : t.Content) (v : Value) :
    t.assignInPlace st c v = replacing st c (t.assign st c v) := by
  induction t with
  | scalar s => exact s.assignInPlace_eq st c v
  | optional t ih =>
    cases c with
    | none => rfl
    | some c =>
      rw [assignInPlace, assign]
      split
      · rfl
      · rw [ih]
        exact map_replacing some st c _
  | serverTime t => rfl

variable {st st₀ : TextStore} {v : Value} {e : ConversionError}

theorem ofValue_eq_error_congr {t : FieldShape} :
    t.ofValue st v = .error e ↔ t.ofValue st₀ v = .error e := by
  induction t with
  | scalar s => exact Scalar.ofValue_eq_error_congr
  | optional t ih =>
    rw [ofValue, ofValue]
    split
    · exact iff_of_false (by rintro ⟨⟩) (by rintro ⟨⟩)
    · exact Except.map_eq_error_iff.trans (ih.trans Except.map_eq_error_iff.symm)
  | serverTime t ih =>
    rw [ofValue, ofValue]
    split
    · exact iff_of_false (by rintro ⟨⟩) (by rintro ⟨⟩)
    · exact Except.map_eq_error_iff.trans (ih.trans Except.map_eq_error_iff.symm)

/-- An assignment fails just where no content can be made from the value, and with the same
error. -/
theorem assign_eq_error_iff {t : FieldShape} {c : t.Content} :
    t.assign st c v = .error e ↔ t.ofValue st₀ v = .error e := by
  induction t with
  | scalar s => exact Scalar.assign_eq_error_iff
  | optional t ih =>
    cases c with
    | none => exact ofValue_eq_error_congr (t := optional t)
    | some c =>
      rw [assign, ofValue]
      split
      · exact iff_of_false (by rintro ⟨⟩) (by rintro ⟨⟩)
      · exact Except.map_eq_error_iff.trans (ih.trans Except.map_eq_error_iff.symm)
  | serverTime t => exact ofValue_eq_error_congr (t := serverTime t)

/-- An assignment that runs succeeds just where a content can be made from the value, whatever store
that content is made in. Then the field has the value of that content, no matter what it held
before; else the error is the same, and both the content and the store are as they were. -/
theorem assign_replaces (t : FieldShape) (c : t.Content)
    (valid : ∀ k, t.target? c = some k → st.Valid k) (v : Value) (st₀ : TextStore) :
    let a := t.assignInPlace st c v
    a = replacing st c (t.assign st c v) ∧
      (a.result = .ok () ↔ ∃ c₀ st₁, t.ofValue st₀ v = .ok (c₀, st₁)) ∧
      (∀ c₀ st₁, t.ofValue st₀ v = .ok (c₀, st₁) →
        t.toValue a.store a.content = t.toValue st₁ c₀) ∧
      ∀ e, a.result = .error e →
        t.ofValue st₀ v = .error e ∧ a.content = c ∧ a.store = st := by
  intro a
  have run : a = replacing st c (t.assign st c v) := t.assignInPlace_eq st c v
  refine ⟨run, ?_⟩
  rw [run]
  cases made : t.ofValue st₀ v with
  | error e =>
    rw [assign_eq_error_iff.2 made]
    refine ⟨iff_of_false (by rintro ⟨⟩) (by simp), by simp, ?_⟩
    rintro e ⟨⟩
    exact ⟨rfl, rfl, rfl⟩
  | ok made =>
    cases assigned : t.assign st c v with
    | error e =>
      rw [assign_eq_error_iff.1 assigned] at made
      cases made
    | ok left =>
      refine ⟨iff_of_true rfl ⟨_, _, rfl⟩, ?_, by rintro e ⟨⟩⟩
      rintro c₀ st₁ ⟨⟩
      -- both contents are held as the type writes the value out
      exact (takes_of_assign valid assigned).value.trans (takes_of_ofValue made).value.symm

/-- A text that two fields share is filled again with the pairs that were read, and left alone when
a line holds no pair. -/
theorem assign_replaces_shared :
    let st : TextStore := ⟨[.ofList [("de", "Haus"), ("fr", "maison")]]⟩
    let t : FieldShape := .optional (.scalar .localized)
    let shared : t.Content := some (⟨0⟩ : LocalizedString)
    let filled := t.assignInPlace st shared (.text "en=house\nde=Heim")
    let refused := t.assignInPlace st shared (.text "en=house\nde")
    (∀ k, t.target? shared = some k → st.Valid k) ∧
      (filled.result = .ok () ∧ t.toValue filled.store filled.content = .text "de=Heim\nen=house") ∧
      (∃ e, refused.result = .error e) ∧ refused.content = shared ∧ refused.store = st := by
  intro st t shared filled refused
  have valid : ∀ k, t.target? shared = some k → st.Valid k := by
    rintro k ⟨⟩
    exact Nat.one_pos
  have made : t.ofValue .empty (.text "en=house\nde=Heim") =
      .ok (some (⟨0⟩ : LocalizedString), ⟨[.ofList [("de", "Heim"), ("en", "house")]]⟩) := rfl
  obtain ⟨-, succeeds, value, -⟩ :=
    assign_replaces t shared valid (.text "en=house\nde=Heim") .empty
  obtain ⟨-, -, -, fails⟩ := assign_replaces t shared valid (.text "en=house\nde") .empty
  have refusal : refused.result = .error (.invalid "LocalizedString" .text
      (.pairs ⟨2, .missingSeparator⟩)) := rfl
  obtain ⟨-, content, store⟩ := fails _ refusal
  refine ⟨valid, ⟨succeeds.2 ⟨_, _, made⟩, (value _ _ made).trans ?_⟩, ⟨_, refusal⟩, content, store⟩
  exact congrArg Value.text (by decide)

end FieldShape

namespace Field

variable {st st₀ st₁ : TextStore} {t : FieldShape} {f : Field} {v : Value}

end Field

end DataMapper
