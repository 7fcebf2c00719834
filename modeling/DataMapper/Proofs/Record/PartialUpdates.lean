import DataMapper.Proofs.Record.Lookup
import DataMapper.Proofs.Record.Writing
import Mathlib.Data.List.Nodup

/-!
# Updates of named fields

The fields to update may be named in any order, by their names or by their columns, and more than
once. A column is assigned as often as its field is named, and so is a field noted that the database
fills with its time. That is at most once, as the database asks for, exactly if no two of the names
belong to one field. Only the identity may be named as often as one likes, for it is never assigned.

## Main definitions

* `Mapping.mentions` — how often a field is named.

## Main statements

* `Mapping.updates_of_fieldsNamed` — what the update of named fields assigns.
-/

namespace DataMapper

open Text

namespace Mapping

/-- How many of the names are found to be those of a field. -/
def mentions (m : Mapping) (names : List String) (f : MappedField) : Nat :=
  names.countP fun s => (m.field? s).any fun g => g.index == f.index

variable {m : Mapping}

/-- The names are replaced by the fields that they belong to, one by one. -/
theorem fieldsNamed_eq_ok_iff {names : List String} {fields : List MappedField} :
    m.fieldsNamed names = .ok fields ↔ names.map m.field? = fields.map some := by
  rw [fieldsNamed, Except.mapM_eq_ok_iff, ← List.forall₂_eq_eq_eq, List.forall₂_map_left_iff,
    List.forall₂_map_right_iff]
  refine ⟨List.Forall₂.imp fun s f found => ?_, List.Forall₂.imp fun s f found => ?_⟩
  · cases there : m.field? s with
    | none =>
      rw [there] at found
      cases found
    | some g =>
      rw [there] at found
      exact congrArg some (Except.ok.inj found)
  · rw [found]

theorem mem_of_fieldsNamed {t : RecordType} (built : ofType t = .ok m) {names : List String}
    {fields : List MappedField} (named : m.fieldsNamed names = .ok fields) :
    ∀ f ∈ fields, f ∈ m.fields := by
  intro f hf
  have found : some f ∈ names.map m.field? := by
    rw [fieldsNamed_eq_ok_iff.1 named]
    exact List.mem_map_of_mem hf
  obtain ⟨s, -, found⟩ := List.mem_map.1 found
  exact ((field?_eq_some_iff built).1 found).1

/-- Each mention of a field puts it into the list once. -/
theorem mentions_eq {names : List String} {fields : List MappedField}
    (named : m.fieldsNamed names = .ok fields) (f : MappedField) :
    m.mentions names f = (fields.map MappedField.index).count f.index := by
  have found := congrArg (List.countP fun o : Option MappedField =>
    o.any fun g => g.index == f.index) (fieldsNamed_eq_ok_iff.1 named)
  rw [List.countP_map, List.countP_map] at found
  rw [List.count, List.countP_map]
  exact found

/-- Of the places of some fields all stay that are those of a field which is kept. -/
theorem count_filter {fs : List MappedField} {keep : MappedField → Bool} {f : MappedField}
    (only : ∀ g ∈ fs, g.index = f.index → g = f) :
    ((fs.filter keep).map MappedField.index).count f.index =
      if keep f then (fs.map MappedField.index).count f.index else 0 := by
  simp only [List.count, List.countP_map, List.countP_filter]
  cases kept : keep f with
  | true =>
    refine List.countP_congr fun g hg => ?_
    simp only [Function.comp_apply, Bool.and_eq_true, beq_iff_eq, and_iff_left_iff_imp]
    intro same
    rw [only g hg same, kept]
  | false =>
    refine List.countP_eq_zero.2 fun g hg both => ?_
    simp only [Function.comp_apply, Bool.and_eq_true, beq_iff_eq] at both
    rw [only g hg both.1, kept] at both
    cases both.2

/-- Fields other than the identity are all there but once if each of them is. -/
theorem nodup_places_iff {fs : List MappedField} {i : MappedField}
    (listed : ∀ f ∈ fs, f ∈ m.fields ∧ f ≠ i) :
    (fs.map MappedField.index).Nodup ↔
      ∀ f ∈ m.fields, f ≠ i → (fs.map MappedField.index).count f.index ≤ 1 := by
  rw [List.nodup_iff_count_le_one]
  refine ⟨fun once f _ _ => once f.index, fun once j => ?_⟩
  by_cases there : j ∈ fs.map MappedField.index
  · obtain ⟨f, hf, rfl⟩ := List.mem_map.1 there
    exact once f (listed f hf).1 (listed f hf).2
  · rw [List.count_eq_zero_of_not_mem there]
    exact Nat.zero_le 1

section

variable {t : RecordType} (built : ofType t = .ok m)
include built

/-- The fields of a mapping have one column if and only if they have one place. -/
theorem sameName_column_iff {f g : MappedField} (hf : f ∈ m.fields) (hg : g ∈ m.fields) :
    sameName f.column g.column = true ↔ f.index = g.index := by
  constructor
  · intro same
    have first := (find?_sameName_eq_some_iff (distinct_of_ofType built)).2 ⟨hf, same⟩
    rw [(find?_sameName_eq_some_iff (distinct_of_ofType built)).2 ⟨hg, sameName_refl _⟩] at first
    rw [Option.some.inj first]
  · intro same
    rw [eq_of_index built hf hg same, sameName_refl]

/-- Of some fields of a mapping none has the column of another exactly if each of them is there but
once. -/
theorem pairwise_column_iff {fs : List MappedField} (listed : ∀ f ∈ fs, f ∈ m.fields) :
    fs.Pairwise (fun f g => sameName f.column g.column = false) ↔
      (fs.map MappedField.index).Nodup := by
  rw [List.Nodup, List.pairwise_map]
  refine List.Pairwise.iff_of_mem fun {f g} hf hg => ?_
  rw [← Bool.not_eq_true, sameName_column_iff built (listed f hf) (listed g hg)]

end

/-- An update of named fields assigns to each column as often as its field is named, the identity
apart, and notes a field for reading back as often as it is named, if the database is to fill it.
So each column is assigned at most once, and each field noted at most once, exactly when no such
field is named twice. -/
theorem updates_of_fieldsNamed {t : RecordType} (built : ofType t = .ok m) {st : TextStore}
    {r : Record} (fits : r.Fits st t) {o : BuildOptions} {names : List String}
    {fields : List MappedField} (named : m.fieldsNamed names = .ok fields)
    {p : PreparedStatement} (h : m.updateStatement o st r fields = .ok p) :
    ∃ i id set, m.StoredAs st r i id ∧ m.Updates o st r set i id p ∧
      (∀ f ∈ m.fields, f ≠ i →
        (set.countP fun g => sameName g.column f.column) = m.mentions names f ∧
          p.stamped.count f.index =
            if (f.rawValue st r).isServerNow then m.mentions names f else 0) ∧
      (set.Pairwise (fun f g => sameName f.column g.column = false) ↔
        ∀ f ∈ m.fields, f ≠ i → m.mentions names f ≤ 1) ∧
      (p.stamped.Nodup ↔
        ∀ f ∈ m.fields, f ≠ i → (f.rawValue st r).isServerNow = true →
          m.mentions names f ≤ 1) := by
  obtain ⟨i, id, stored, -⟩ := storedAs_of_updateStatement built fits h
  have listed := mem_of_fieldsNamed built named
  have updates := updates_of_updateStatement built fits stored listed h
  have inside : ∀ g ∈ updatedFields i fields, g ∈ m.fields ∧ g ≠ i := fun g hg =>
    ⟨listed g (List.mem_filter.1 hg).1, (updates.apart g hg).1⟩
  have assigned : ∀ f ∈ m.fields, f ≠ i →
      ((updatedFields i fields).map MappedField.index).count f.index = m.mentions names f := by
    intro f hf other
    have apart : (f.index != i.index) = true := bne_iff_ne.2 fun same =>
      other (eq_of_index built hf (identity_of_ofType built stored.1).1 same)
    rw [updatedFields, count_filter fun g hg => eq_of_index built (listed g hg) hf, if_pos apart,
      mentions_eq named]
  have stamped : ∀ f ∈ m.fields, f ≠ i → p.stamped.count f.index =
      if (f.rawValue st r).isServerNow then m.mentions names f else 0 := by
    intro f hf other
    rw [updates.stamped, count_filter fun g hg => eq_of_index built (inside g hg).1 hf,
      assigned f hf other]
  refine ⟨i, id, updatedFields i fields, stored, updates,
    fun f hf other => ⟨?_, stamped f hf other⟩, ?_, ?_⟩
  · rw [← assigned f hf other, List.count, List.countP_map]
    refine List.countP_congr fun g hg => ?_
    rw [sameName_column_iff built (inside g hg).1 hf, Function.comp_apply, beq_iff_eq]
  · rw [pairwise_column_iff built fun g hg => (inside g hg).1, nodup_places_iff inside]
    exact forall₃_congr fun f hf other => by rw [assigned f hf other]
  · have noted : p.stamped.Nodup ↔ ∀ f ∈ m.fields, f ≠ i → p.stamped.count f.index ≤ 1 := by
      rw [updates.stamped]
      exact nodup_places_iff fun g hg => inside g (List.mem_filter.1 hg).1
    rw [noted]
    refine forall₃_congr fun f hf other => ?_
    rw [stamped f hf other]
    cases (f.rawValue st r).isServerNow <;> simp

def articleMapping : Mapping :=
  ⟨articles, numberFields 0 articles.fields, some ⟨articles.fields[0], 0⟩⟩

/-- The title of an article and its date are updated, named in any way but once each. -/
theorem updates_of_fieldsNamed_article :
    ofType articles = .ok articleMapping ∧ article.Fits articleStore articles ∧
      ∃ i fields p,
        articleMapping.fieldsNamed ["CHANGED_AT", "id", "Title", "ID"] = .ok fields ∧
        articleMapping.updateStatement {} articleStore article fields = .ok p ∧
        articleMapping.StoredAs articleStore article i 7 ∧
        ∃ set, articleMapping.Updates {} articleStore article set i 7 p ∧
          set.Pairwise (fun f g => sameName f.column g.column = false) ∧ p.stamped.Nodup := by
  obtain ⟨i, id, set, stored, updates, -, once, noted⟩ :=
    @updates_of_fieldsNamed articleMapping articles rfl articleStore article fits_article {}
      ["CHANGED_AT", "id", "Title", "ID"] _ rfl _ rfl
  obtain ⟨identity, int, -⟩ := stored
  cases identity
  cases int
  have single : ∀ f ∈ articleMapping.fields, f ≠ ⟨articles.fields[0], 0⟩ →
      articleMapping.mentions ["CHANGED_AT", "id", "Title", "ID"] f ≤ 1 := by
    intro f hf other
    simp only [articleMapping, numberFields, articles, List.mem_cons, List.not_mem_nil,
      or_false] at hf
    rcases hf with rfl | rfl | rfl
    · exact absurd rfl other
    · decide
    · decide
  exact ⟨rfl, fits_article, _, _, _, rfl, rfl, ⟨rfl, rfl, by decide⟩, set, updates,
    once.2 single, noted.2 fun f hf other _ => single f hf other⟩

/-- A field that is named by its name and by its column is assigned twice. -/
theorem updateStatement_repeats :
    ofType articles = .ok articleMapping ∧ otherArticle.Fits articleStore articles ∧
      ∃ fields p, articleMapping.fieldsNamed ["Title", "changed", "CHANGED_AT"] = .ok fields ∧
        articleMapping.updateStatement {} articleStore otherArticle fields = .ok p ∧
        p.sql = "UPDATE articles SET title=?,changed_at=now(),changed_at=now() WHERE id=0" ∧
        ¬ p.stamped.Nodup :=
  ⟨rfl, fits_otherArticle, _, _, rfl, rfl, by decide, by decide⟩

end Mapping

end DataMapper
