import DataMapper.Proofs.Field.Columns
import Mathlib.Data.List.Nodup

/-!
# Stored names of variants

The variants of an enumeration are stored under their own names or under those that they are renamed
to. No check is made that the stored names differ: a name that several variants have is read as the
first of them, so that each variant comes back exactly if it shares its stored name with no variant
before it.

## Main definitions

* `DeclaredVariant.StoredAs` — the name that a variant is stored under.
* `Enumeration.ComesBack` — a constant is read back from the value that it has.

## Main statements

* `Declaration.storedNames_eq_ok_iff` — which declarations there are stored names for.
* `Declaration.comesBack_of_storedNames` — which variants come back.
-/

namespace DataMapper

/-! ## Renames -/

/-- The item that renames a variant. -/
def AttributeItem.rename (s : String) : AttributeItem := ⟨"rename", .text s⟩

/-- A variant without fields, whose `record` attributes do nothing but rename it; the last of the
names counts. -/
def DeclaredVariant.StoredAs (v : DeclaredVariant) (stored : String) : Prop :=
  v.hasFields = false ∧ ∃ renames : List String,
    recordItems v.attributes = renames.map .rename ∧ stored = renames.getLast?.getD v.name

theorem readRename_eq_ok_iff {before after : Option String} {i : AttributeItem} :
    readRename before i = .ok after ↔ ∃ s, i = .rename s ∧ after = some s := by
  obtain ⟨key, value⟩ := i
  unfold readRename AttributeItem.rename
  split
  · next renames =>
    obtain rfl : key = "rename" := renames
    cases value <;> simp [AttributeItem.text, Except.map, eq_comm]
  · next other =>
    refine iff_of_false (fun ok => by cases ok) ?_
    rintro ⟨s, same, -⟩
    exact other (congrArg AttributeItem.key same)

theorem foldlM_readRename_eq_ok_iff {before after : Option String} {items : List AttributeItem} :
    items.foldlM readRename before = .ok after ↔
      ∃ renames : List String,
        items = renames.map .rename ∧ after = renames.getLast?.or before := by
  induction items generalizing before with
  | nil =>
    refine ⟨fun ok => ⟨[], rfl, (Except.ok.inj ok).symm⟩, ?_⟩
    rintro ⟨renames, none, rfl⟩
    obtain rfl := List.map_eq_nil_iff.1 none.symm
    rfl
  | cons i items ih =>
    have first : (i :: items).foldlM readRename before = .ok after ↔
        ∃ s, i = .rename s ∧ items.foldlM readRename (some s) = .ok after := by
      rw [List.foldlM_cons]
      cases read : readRename before i with
      | error fault =>
        refine iff_of_false (fun ok => by cases ok) ?_
        rintro ⟨s, rfl, -⟩
        cases read
      | ok now =>
        obtain ⟨s, rfl, rfl⟩ := readRename_eq_ok_iff.1 read
        refine ⟨fun rest => ⟨s, rfl, rest⟩, ?_⟩
        rintro ⟨s', same, rest⟩
        cases same
        exact rest
    have last (s : String) (renames : List String) :
        renames.getLast?.or (some s) = (s :: renames).getLast?.or before := by
      cases renames <;> simp [List.getLast?_cons]
    rw [first]
    constructor
    · rintro ⟨s, rfl, rest⟩
      obtain ⟨renames, rfl, rfl⟩ := ih.1 rest
      exact ⟨s :: renames, rfl, last s renames⟩
    · rintro ⟨renames, same, rfl⟩
      cases renames with
      | nil => cases same
      | cons s renames =>
        cases same
        exact ⟨s, rfl, ih.2 ⟨renames, rfl, (last s renames).symm⟩⟩

namespace Declaration

theorem storedName_eq_ok_iff {v : DeclaredVariant} {s : String} :
    storedName v = .ok s ↔ v.StoredAs s := by
  unfold storedName DeclaredVariant.StoredAs
  cases v.hasFields with
  | true => simp
  | false =>
    rw [if_neg Bool.false_ne_true, and_iff_right rfl, Except.map_eq_ok_iff]
    constructor
    · rintro ⟨rename, read, rfl⟩
      obtain ⟨renames, items, rfl⟩ := foldlM_readRename_eq_ok_iff.1 read
      exact ⟨renames, items, by rw [Option.or_none]⟩
    · rintro ⟨renames, items, rfl⟩
      exact ⟨renames.getLast?, foldlM_readRename_eq_ok_iff.2 ⟨renames, items, by simp⟩, rfl⟩

/-- Stored names are derived for enumerations only, all of whose variants have one. -/
theorem storedNames_eq_ok_iff {d : Declaration} {names : List (String × String)} :
    d.storedNames = .ok names ↔
      ∃ vs, d.shape = .variants vs ∧
        List.Forall₂ (fun v n => n.1 = v.name ∧ v.StoredAs n.2) vs names := by
  unfold storedNames
  split
  · next vs shape =>
    have each (v : DeclaredVariant) (n : String × String) :
        (storedName v).map (fun stored => (v.name, stored)) = .ok n ↔
          n.1 = v.name ∧ v.StoredAs n.2 := by
      rw [Except.map_eq_ok_iff]
      constructor
      · rintro ⟨stored, found, rfl⟩
        exact ⟨rfl, storedName_eq_ok_iff.1 found⟩
      · rintro ⟨name, stored⟩
        exact ⟨n.2, storedName_eq_ok_iff.2 stored, Prod.ext name.symm rfl⟩
    simp only [Except.mapM_eq_ok_iff, each, shape, DeclaredShape.variants.injEq, exists_eq_left']
  · next other =>
    refine iff_of_false (fun ok => by cases ok) ?_
    rintro ⟨vs, shape, -⟩
    exact other vs shape

end Declaration

/-! ## Constants that come back -/

namespace Enumeration

variable {e : Enumeration}

/-- A value is read as a constant when it is the constant's stored name, as a name or as a text, and
no constant before it is stored under the same name. -/
theorem constantOfValue_eq_ok_iff {v : Value} {i : Fin e.stored.length} :
    Scalar.constantOfValue e v = .ok i ↔
      (v = .enumName (e.stored.get i) ∨ v = .text (e.stored.get i)) ∧ ¬ e.IsHidden i := by
  have first (s : String) : e.stored.finIdxOf? s = some i ↔ s = e.stored.get i ∧ ¬ e.IsHidden i := by
    rw [List.finIdxOf?_eq_some_iff]
    constructor
    · rintro ⟨same, before⟩
      refine ⟨same.symm, ?_⟩
      rintro ⟨j, below, equal⟩
      exact before j below (equal.trans same)
    · rintro ⟨rfl, shown⟩
      exact ⟨rfl, fun j below equal => shown ⟨j, below, equal⟩⟩
  cases v with
  | enumName s | text s =>
    simp only [Scalar.constantOfValue]
    cases found : e.stored.finIdxOf? s with
    | none =>
      refine iff_of_false (fun ok => by cases ok) ?_
      rintro ⟨own, shown⟩
      have there := (first s).2 ⟨by simpa using own, shown⟩
      cases found.symm.trans there
    | some j =>
      have same := first s
      rw [found] at same
      simpa using same
  | _ => simp [Scalar.constantOfValue]

/-- A constant is read back from its stored name, given as a name or as a text. -/
def ComesBack (e : Enumeration) (i : Fin e.stored.length) : Prop :=
  ∀ st, Scalar.ofValue st (.enumeration e) (Scalar.toValue st (.enumeration e) i) = .ok (i, st) ∧
    Scalar.ofValue st (.enumeration e) (.text (e.stored.get i)) = .ok (i, st)

theorem ofValue_eq_ok_iff {st : TextStore} {v : Value} {i : Fin e.stored.length} :
    Scalar.ofValue st (.enumeration e) v = .ok (i, st) ↔
      (v = .enumName (e.stored.get i) ∨ v = .text (e.stored.get i)) ∧ ¬ e.IsHidden i := by
  have read : Scalar.ofValue st (.enumeration e) v =
      (Scalar.constantOfValue e v).map fun j => (j, st) := by
    cases v <;> rfl
  rw [read, ← constantOfValue_eq_ok_iff]
  refine Except.map_eq_ok_iff.trans ⟨?_, fun found => ⟨i, found, rfl⟩⟩
  rintro ⟨j, found, same⟩
  exact (Prod.mk.inj same).1 ▸ found

theorem comesBack_iff_not_isHidden {i : Fin e.stored.length} : e.ComesBack i ↔ ¬ e.IsHidden i := by
  constructor
  · intro back
    exact (ofValue_eq_ok_iff.1 (back .empty).2).2
  · exact fun shown st => ⟨ofValue_eq_ok_iff.2 ⟨.inl rfl, shown⟩,
      ofValue_eq_ok_iff.2 ⟨.inr rfl, shown⟩⟩

/-- Of the constants with one stored name the first is not hidden. -/
theorem exists_first (e : Enumeration) (i : Fin e.stored.length) :
    ∃ j ≤ i, e.stored.get j = e.stored.get i ∧ ¬ e.IsHidden j := by
  obtain ⟨j, read, -⟩ := Scalar.constantOfValue_iff e i
  obtain ⟨own, shown⟩ := constantOfValue_eq_ok_iff.1 read
  have same : e.stored.get i = e.stored.get j := by simpa using own
  exact ⟨j, Fin.not_lt.1 fun before => shown ⟨i, before, same⟩, same.symm, shown⟩

theorem forall_not_isHidden_iff (e : Enumeration) : (∀ i, ¬ e.IsHidden i) ↔ e.stored.Nodup := by
  rw [List.nodup_iff_injective_get]
  constructor
  · intro shown i j same
    rcases Nat.lt_trichotomy i j with before | there | behind
    · exact absurd ⟨i, before, same⟩ (shown j)
    · exact Fin.ext there
    · exact absurd ⟨j, behind, same.symm⟩ (shown i)
  · rintro apart i ⟨j, before, same⟩
    exact Nat.ne_of_lt before (congrArg Fin.val (apart same))

end Enumeration

/-! ## Derived tables -/

theorem storedName?_of_mem {names : List (String × String)} (apart : (names.map Prod.fst).Nodup)
    {n : String × String} (hn : n ∈ names) : storedName? names n.1 = some n.2 := by
  obtain ⟨before, behind, rfl⟩ := List.append_of_mem hn
  refine List.lookup_eq_some_iff.2 ⟨before, behind, rfl, fun p hp => bne_iff_ne.2 fun same => ?_⟩
  rw [List.map_append, List.map_cons] at apart
  exact (List.nodup_append.1 apart).2.2 p.1 (List.mem_map_of_mem hp) n.1 List.mem_cons_self same.symm

/-- The table from stored names to variants undoes the table from variants to stored names exactly
if no two stored names are the same. -/
theorem forall_variantStoredAs?_iff {names : List (String × String)}
    (apart : (names.map Prod.fst).Nodup) :
    (∀ n ∈ names, (storedName? names n.1).bind (variantStoredAs? names) = some n.1) ↔
      (names.map Prod.snd).Nodup := by
  have stored : (∀ n ∈ names, (storedName? names n.1).bind (variantStoredAs? names) = some n.1) ↔
      ∀ n ∈ names, variantStoredAs? names n.2 = some n.1 :=
    forall₂_congr fun n hn => by rw [storedName?_of_mem apart hn, Option.bind_some]
  rw [stored, List.nodup_map_iff_inj_on (.of_map _ apart)]
  constructor
  · intro back x hx y hy same
    have variants := (back x hx).symm.trans (same ▸ back y hy)
    exact List.inj_on_of_nodup_map apart hx hy (Option.some.inj variants)
  · intro alone n hn
    rw [variantStoredAs?]
    cases found : names.find? fun k => k.2 == n.2 with
    | none => exact absurd (beq_self_eq_true n.2) (List.find?_eq_none.1 found n hn)
    | some k =>
      have same : (k.2 == n.2) = true :=
        List.find?_some (p := fun k : String × String => k.2 == n.2) found
      rw [alone k (List.mem_of_find?_eq_some found) n hn (beq_iff_eq.1 same), Option.map_some]

namespace Declaration

/-- Stored names are derived for enumerations whose variants have no fields and are at most renamed.
The value of a variant is its stored name. Given as a name or as a text, it is read as the first
variant that is stored under it, so that a variant comes back exactly if none before it has the same
stored name, and all of them come back exactly if no two stored names are the same. -/
theorem comesBack_of_storedNames {d : Declaration} {names : List (String × String)}
    (derived : d.storedNames = .ok names) {e : Enumeration}
    (stored : e.stored = names.map Prod.snd) :
    (∃ vs, d.shape = .variants vs ∧
        List.Forall₂ (fun v n => n.1 = v.name ∧ v.StoredAs n.2) vs names) ∧
      (∀ i : Fin e.stored.length, ∃ j ≤ i, ∀ st,
        Scalar.ofValue st (.enumeration e) (Scalar.toValue st (.enumeration e) i) = .ok (j, st) ∧
          Scalar.ofValue st (.enumeration e) (.text (e.stored.get i)) = .ok (j, st)) ∧
      (∀ i, e.ComesBack i ↔ ∀ j < i, e.stored.get j ≠ e.stored.get i) ∧
      ((∀ i, e.ComesBack i) ↔ (names.map Prod.snd).Nodup) ∧
      ((names.map Prod.fst).Nodup →
        ((∀ n ∈ names, (storedName? names n.1).bind (variantStoredAs? names) = some n.1) ↔
          (names.map Prod.snd).Nodup)) := by
  refine ⟨storedNames_eq_ok_iff.1 derived, fun i => ?_, fun i => ?_, ?_,
    forall_variantStoredAs?_iff⟩
  · obtain ⟨j, before, same, shown⟩ := e.exists_first i
    refine ⟨j, before, fun st => ⟨?_, ?_⟩⟩
    · exact Enumeration.ofValue_eq_ok_iff.2 ⟨.inl (congrArg Value.enumName same.symm), shown⟩
    · exact Enumeration.ofValue_eq_ok_iff.2 ⟨.inr (congrArg Value.text same.symm), shown⟩
  · rw [Enumeration.comesBack_iff_not_isHidden]
    simp [Enumeration.IsHidden]
  · rw [← stored, ← e.forall_not_isHidden_iff]
    simp only [Enumeration.comesBack_iff_not_isHidden]

/-- Two variants, of which the second is renamed twice. -/
def sides : Declaration where
  name := "Side"
  generics := []
  attributes := []
  shape := .variants
    [⟨"Left", [], false⟩,
      ⟨"Right", [⟨"record", [.rename "R"]⟩, ⟨"doc", []⟩, ⟨"record", [.rename "right"]⟩], false⟩]

/-- The last name counts, and both variants come back. -/
theorem comesBack_of_storedNames_sides :
    sides.storedNames = .ok [("Left", "Left"), ("Right", "right")] ∧
      ∀ i, (Enumeration.mk "Side" ["Left", "right"] ⟨0, by decide⟩).ComesBack i := by
  have derived : sides.storedNames = .ok [("Left", "Left"), ("Right", "right")] := by decide
  refine ⟨derived, ?_⟩
  obtain ⟨-, -, -, all, -⟩ := @comesBack_of_storedNames sides _ derived
    ⟨"Side", ["Left", "right"], ⟨0, by decide⟩⟩ rfl
  exact all.2 (by decide)

/-- Two variants, of which the first is renamed to the second. -/
def renamedSides : Declaration where
  name := "Side"
  generics := []
  attributes := []
  shape := .variants [⟨"A", [⟨"record", [.rename "B"]⟩], false⟩, ⟨"B", [], false⟩]

/-- A variant that keeps its name is read as the one before it that has been given this name. -/
theorem not_comesBack_renamedSides :
    renamedSides.storedNames = .ok [("A", "B"), ("B", "B")] ∧
      let e : Enumeration := ⟨"Side", ["B", "B"], ⟨0, by decide⟩⟩
      Scalar.toValue .empty (.enumeration e) (⟨1, by decide⟩ : Fin 2) = .enumName "B" ∧
        Scalar.ofValue .empty (.enumeration e) (.enumName "B") =
          .ok ((⟨0, by decide⟩ : Fin 2), .empty) ∧
        Scalar.ofValue .empty (.enumeration e) (.text "B") =
          .ok ((⟨0, by decide⟩ : Fin 2), .empty) :=
  ⟨by decide, rfl, rfl, rfl⟩

end Declaration

end DataMapper
