import DataMapper.Proofs.Query.Search
import Mathlib.Data.List.Basic

/-!
# Subqueries of a search

A column of another table is searched in a subquery, whose condition refers to the row of the outer
query by the outer table's alias or, without one, by its name. Names are looked up from the inside
out: where the subquery's own table has that name, the reference is to a row of that table, and the
outer row does not matter.

## Main definitions

* `Reference.value?` — what a qualified column refers to.
* `Subquery.Finds` — whether a subquery finds a row.
* `Query.subquery` — the subquery for a column of another table.

## Main statements

* `Subquery.names_eq_of_text_eq` — the text of a subquery over plain names tells which these are.
* `Query.finds_subquery_iff` — what the subquery for a column finds.
* `Query.search_correlates` — the subqueries of a search.
-/

namespace DataMapper

open Sql Text

/-- A column with the name of the table that it belongs to. -/
structure Reference where
  qualifier : String
  column : String
  deriving DecidableEq, Repr

namespace Reference

def text (r : Reference) : String := r.qualifier ++ "." ++ r.column

variable {V : Type}

/-- The value of a reference among the rows at hand, each with the name of its table and the
innermost one first. The rows have all columns that are asked for. -/
def value? (rows : List (String × (String → V))) (r : Reference) : Option V :=
  (rows.find? fun row => row.1 == r.qualifier).map fun row => row.2 r.column

theorem value?_cons (name : String) (row : String → V) (rows : List (String × (String → V)))
    (r : Reference) : value? ((name, row) :: rows) r =
      if name = r.qualifier then some (row r.column) else value? rows r := by
  by_cases own : name = r.qualifier <;> simp [value?, own]

end Reference

/-- A subquery for the rows of a table with a key and with a pattern in one of their columns. -/
structure Subquery where
  table : String
  key : Reference
  /-- What the key has to equal. -/
  reference : Reference
  searched : Reference
  pattern : String
  deriving DecidableEq, Repr

namespace Subquery

/-- The condition that the subquery finds a row. -/
def fragment (s : Subquery) (q : Query) : Fragment :=
  .ofString ("EXISTS (SELECT * FROM " ++ s.table ++ " WHERE " ++ s.key.text ++ "=" ++
    s.reference.text ++ " AND " ++ s.searched.text) ++ q.likeText s.pattern ++ .ofString ")"

/-- Whether the subquery finds a row in the tables, from inside the outer rows. When two values are
the same and when a value is like a pattern is up to the database. -/
def Finds {V : Type} (s : Subquery) (same : V → V → Prop) (like : V → String → Prop)
    (tables : String → List (String → V)) (outer : List (String × (String → V))) : Prop :=
  ∃ row ∈ tables s.table,
    let rows := (s.table, row) :: outer
    (∃ x ∈ s.key.value? rows, ∃ y ∈ s.reference.value? rows, same x y) ∧
      ∃ z ∈ s.searched.value? rows, like z s.pattern

end Subquery

/-! ## Names in texts -/

/-- A name that is not quoted ends at a blank, a dot or an equals sign. -/
def IsPlainName (name : String) : Prop :=
  ' ' ∉ name.toList ∧ '.' ∉ name.toList ∧ '=' ∉ name.toList

instance (name : String) : Decidable (IsPlainName name) := inferInstanceAs (Decidable (_ ∧ _ ∧ _))

theorem name_eq_of_append_eq {name name' : String} {stop : Char} {rest rest' : List Char}
    (own : stop ∉ name.toList) (own' : stop ∉ name'.toList)
    (h : name.toList ++ stop :: rest = name'.toList ++ stop :: rest') :
    name = name' ∧ rest = rest' := by
  have split {xs ys more : List Char} {rest rest' : List Char} (own : stop ∉ ys)
      (longer : ys = xs ++ more) (behind : stop :: rest = more ++ stop :: rest') :
      xs = ys ∧ rest = rest' := by
    cases more with
    | nil => exact ⟨by rw [longer, List.append_nil], (List.cons.inj behind).2⟩
    | cons c more =>
      obtain ⟨rfl, -⟩ := List.cons.inj behind
      simp [longer] at own
  rcases List.append_eq_append_iff.1 h with ⟨more, longer, behind⟩ | ⟨more, longer, behind⟩
  · obtain ⟨same, ends⟩ := split own' longer behind
    exact ⟨String.toList_inj.1 same, ends⟩
  · obtain ⟨same, ends⟩ := split own longer behind
    exact ⟨String.toList_inj.1 same.symm, ends.symm⟩

def Reference.IsPlain (r : Reference) : Prop := IsPlainName r.qualifier ∧ IsPlainName r.column

instance (r : Reference) : Decidable r.IsPlain := inferInstanceAs (Decidable (_ ∧ _))

theorem Reference.eq_of_append_eq {r r' : Reference} (plain : r.IsPlain) (plain' : r'.IsPlain)
    {stop : Char} (ends : stop = ' ' ∨ stop = '=') {rest rest' : List Char}
    (h : r.text.toList ++ stop :: rest = r'.text.toList ++ stop :: rest') :
    r = r' ∧ rest = rest' := by
  obtain ⟨qualifier, column⟩ := r
  obtain ⟨qualifier', column'⟩ := r'
  obtain ⟨⟨-, dot, -⟩, blank, -, equals⟩ := plain
  obtain ⟨⟨-, dot', -⟩, blank', -, equals'⟩ := plain'
  simp only [text, String.toList_append, List.append_assoc] at h
  obtain ⟨rfl, behind⟩ := name_eq_of_append_eq dot dot' h
  obtain ⟨rfl, same⟩ : column = column' ∧ rest = rest' := by
    rcases ends with rfl | rfl
    · exact name_eq_of_append_eq blank blank' behind
    · exact name_eq_of_append_eq equals equals' behind
  exact ⟨rfl, same⟩

namespace Subquery

/-- The names of the subquery are not quoted. -/
structure IsPlain (s : Subquery) : Prop where
  table : IsPlainName s.table
  key : s.key.IsPlain
  reference : s.reference.IsPlain
  searched : s.searched.IsPlain

theorem text_fragment (s : Subquery) (q : Query) :
    ∃ rest, (s.fragment q).text =
      "EXISTS (SELECT * FROM ".toList ++ (s.table.toList ++ ' ' :: ("WHERE ".toList ++
        (s.key.text.toList ++ '=' :: (s.reference.text.toList ++ ' ' :: ("AND ".toList ++
          (s.searched.text.toList ++ ' ' :: rest)))))) := by
  refine ⟨?_, ?_⟩
  rotate_left
  · simp only [fragment, Query.likeText, Fragment.text_append, Fragment.text_ofString,
      String.toList_append, List.append_assoc]
    rfl

/-- The text of a subquery over plain names tells which these are. -/
theorem names_eq_of_text_eq {s s' : Subquery} {q : Query} (plain : s.IsPlain)
    (plain' : s'.IsPlain) (h : (s.fragment q).text = (s'.fragment q).text) :
    s.table = s'.table ∧ s.key = s'.key ∧ s.reference = s'.reference ∧
      s.searched = s'.searched := by
  obtain ⟨rest, text⟩ := s.text_fragment q
  obtain ⟨rest', text'⟩ := s'.text_fragment q
  rw [text, text'] at h
  obtain ⟨table, h⟩ :=
    name_eq_of_append_eq plain.table.1 plain'.table.1 (List.append_cancel_left h)
  obtain ⟨key, h⟩ :=
    Reference.eq_of_append_eq plain.key plain'.key (.inr rfl) (List.append_cancel_left h)
  obtain ⟨reference, h⟩ :=
    Reference.eq_of_append_eq plain.reference plain'.reference (.inl rfl) h
  obtain ⟨searched, -⟩ :=
    Reference.eq_of_append_eq plain.searched plain'.searched (.inl rfl) (List.append_cancel_left h)
  exact ⟨table, key, reference, searched⟩

end Subquery

namespace Query

variable (q : Query) (f : ForeignColumn) (pattern : String)

/-- The subquery for a column of another table. -/
def subquery : Subquery where
  table := f.table
  key := ⟨f.table, f.referencedKey⟩
  reference := ⟨q.outerName, f.foreignKey⟩
  searched := ⟨f.table, f.column⟩
  pattern := pattern

theorem foreignMatch_eq : q.foreignMatch pattern f = (q.subquery f pattern).fragment q := by
  simp only [foreignMatch, Subquery.fragment, subquery, Reference.text, String.append_assoc]

section

variable {V : Type} (same : V → V → Prop) (like : V → String → Prop)
  (tables : String → List (String → V))

/-- The subquery finds the rows of the other table that the outer row refers to. If that table has
the name of the outer one, it finds instead the rows that refer to themselves. -/
theorem finds_subquery_iff (row : String → V) (joined : List (String × (String → V))) :
    (q.subquery f pattern).Finds same like tables ((q.outerName, row) :: joined) ↔
      ∃ other ∈ tables f.table,
        same (other f.referencedKey)
            (if q.outerName = f.table then other f.foreignKey else row f.foreignKey) ∧
          like (other f.column) pattern := by
  let s := q.subquery f pattern
  have key (other : String → V) (outer : List (String × (String → V))) :
      s.key.value? ((s.table, other) :: outer) = some (other f.referencedKey) := by
    simp [s, subquery, Reference.value?_cons]
  have searched (other : String → V) (outer : List (String × (String → V))) :
      s.searched.value? ((s.table, other) :: outer) = some (other f.column) := by
    simp [s, subquery, Reference.value?_cons]
  have reference (other : String → V) :
      s.reference.value? ((s.table, other) :: (q.outerName, row) :: joined) =
        some (if q.outerName = f.table then other f.foreignKey else row f.foreignKey) := by
    by_cases captured : q.outerName = f.table
    · simp [s, subquery, Reference.value?_cons, captured]
    · simp [s, subquery, Reference.value?_cons, captured, Ne.symm captured]
  refine exists_congr fun other => and_congr_right fun _ => ?_
  simp only [s] at key searched reference
  simp only [key, searched, reference, Option.mem_some_iff, exists_eq_left']
  exact Iff.rfl

end

/-! ## Searches -/

variable (phrase : String) (method : SearchMethod) (columns : List String)
  (foreign : List ForeignColumn)

theorem wordAtoms_eq (w : List Char) :
    q.wordAtoms columns foreign w =
      let pattern := String.ofList ('%' :: escapeLike w ++ ['%'])
      columns.map (fun c => q.columnText c ++ q.likeText pattern) ++
        foreign.map fun f => (q.subquery f pattern).fragment q := by
  exact congrArg (_ ++ ·) (List.map_congr_left fun f _ => q.foreignMatch_eq f _)

/-- In the condition of a search each word is compared with each column and sought by one subquery
for each column of another table. The text of a subquery over plain names has no other meaning. Its
reference is to the row of the outer query, as intended, unless the name that this query has is that
of the other table; then it is to the subquery's own rows. -/
theorem search_correlates {conjunct : Bool} {result : Query}
    (taken : q.search conjunct phrase method columns foreign = .ok result) :
    ∃ ts : List (Token Fragment), result = q.addCondition conjunct (.spell ts) ∧
      (operands ts = (words phrase.toList).flatMap fun w =>
        let pattern := String.ofList ('%' :: escapeLike w ++ ['%'])
        columns.map (fun c => q.columnText c ++ q.likeText pattern) ++
          foreign.map fun f => (q.subquery f pattern).fragment q) ∧
      ∀ f ∈ foreign, ∀ pattern,
        let s := q.subquery f pattern
        (s.IsPlain → ∀ s' : Subquery, s'.IsPlain → (s'.fragment q).text = (s.fragment q).text →
          s'.table = f.table ∧ s'.key = ⟨f.table, f.referencedKey⟩ ∧
            s'.reference = ⟨q.outerName, f.foreignKey⟩ ∧ s'.searched = ⟨f.table, f.column⟩) ∧
        ∀ {V : Type} (same : V → V → Prop) (like : V → String → Prop)
          (tables : String → List (String → V)) (row : String → V)
          (joined : List (String × (String → V))),
          let found := s.Finds same like tables ((q.outerName, row) :: joined)
          (q.outerName ≠ f.table →
            (found ↔ ∃ other ∈ tables f.table,
              same (other f.referencedKey) (row f.foreignKey) ∧ like (other f.column) pattern)) ∧
          (q.outerName = f.table →
            (found ↔ ∃ other ∈ tables f.table,
              same (other f.referencedKey) (other f.foreignKey) ∧
                like (other f.column) pattern)) := by
  have said : isBlankText phrase = false ∧ ¬ (columns = [] ∧ foreign = []) := by
    rw [← Bool.not_eq_true, ← not_or]
    intro refused
    rw [q.search_refused phrase method columns foreign refused] at taken
    cases taken
  rw [q.search_eq phrase method columns foreign said.1 said.2] at taken
  cases taken
  refine ⟨_, rfl, ?_, fun f _ pattern => ?_⟩
  · rw [operands_searchTokens]
    exact congrArg (List.flatMap · _) (funext (q.wordAtoms_eq columns foreign))
  · intro s
    refine ⟨fun plain s' plain' text => ?_, fun same like tables row joined => ?_⟩
    · exact Subquery.names_eq_of_text_eq plain' plain text
    · have finds := q.finds_subquery_iff f pattern same like tables row joined
      refine ⟨fun free => ?_, fun captured => ?_⟩
      · simpa only [if_neg free] using finds
      · simpa only [if_pos captured] using finds

/-- A book is found by the name of its author, since the authors' table has another name. -/
theorem search_correlates_author :
    let q := Query.select "books" {}
    let tolkien : String → String := fun c => if c = "id" then "7" else "Tolkien"
    let hobbit : String → String := fun c => if c = "author_id" then "7" else "The Hobbit"
    (∃ result, q.search true "tolkien" .allWords [] [author] = .ok result) ∧
      ∀ like pattern,
        let s := q.subquery author pattern
        s.IsPlain ∧ (s.Finds (· = ·) like (fun _ => [tolkien]) [("books", hobbit)] ↔
          like "Tolkien" pattern) := by
  intro q tolkien hobbit
  have taken : q.search true "tolkien" .allWords [] [author] = .ok _ :=
    q.search_eq "tolkien" .allWords [] [author] (by decide) (by simp)
  refine ⟨⟨_, taken⟩, fun like pattern => ⟨?_, ?_⟩⟩
  · exact ⟨(by decide : IsPlainName "authors"), (by decide : Reference.IsPlain ⟨"authors", "id"⟩),
      (by decide : Reference.IsPlain ⟨"books", "author_id"⟩),
      (by decide : Reference.IsPlain ⟨"authors", "name"⟩)⟩
  obtain ⟨ts, -, -, means⟩ := q.search_correlates "tolkien" .allWords [] [author] taken
  obtain ⟨-, finds⟩ := means author (by simp) pattern
  have found := (finds (· = ·) like (fun _ => [tolkien]) hobbit []).1 (by decide)
  rw [show ("books", hobbit) = (q.outerName, hobbit) from rfl, found]
  simp [tolkien, hobbit, author]

/-- The manager of an employee, who is an employee. -/
def manager : ForeignColumn := ⟨"emp", "name", "manager_id", "id"⟩

/-- A search for the employees by the name of their manager refers to no employee but those of the
subquery: it does not find an employee whose manager has the name. -/
theorem search_captured :
    let q := Query.select "emp" {}
    let s := q.subquery manager "%ann%"
    let ann (c : String) := if c = "id" then "1" else if c = "name" then "Ann" else ""
    let bob (c : String) := if c = "id" then "2" else if c = "name" then "Bob" else "1"
    (∃ ts, q.search true "ann" .allWords [] [manager] = .ok (q.addCondition true (.spell ts)) ∧
      operands ts = [s.fragment q]) ∧
      (s.fragment q).text =
        "EXISTS (SELECT * FROM emp WHERE emp.id=emp.manager_id AND emp.name LIKE ?)".toList ∧
      s.reference.qualifier = s.table ∧ ann "id" = bob "manager_id" ∧
      ∀ like, ¬ s.Finds (· = ·) like (fun _ => [ann, bob]) [("emp", bob)] := by
  intro q s ann bob
  have taken : q.search true "ann" .allWords [] [manager] = .ok _ :=
    q.search_eq "ann" .allWords [] [manager] (by decide) (by simp)
  refine ⟨⟨_, taken, ?_⟩, ?_, rfl, rfl, fun like found => ?_⟩
  · rw [operands_searchTokens, show words "ann".toList = ["ann".toList] from rfl,
      List.flatMap_singleton, wordAtoms_eq]
    rfl
  · simp only [s, q, Subquery.fragment, likeText, Fragment.text_append, Fragment.text_ofString,
      String.toList_append, Reference.text]
    rfl
  · rw [show ("emp", bob) = (q.outerName, bob) from rfl, finds_subquery_iff] at found
    obtain ⟨other, mem, same, -⟩ := found
    have own : other "id" = other "manager_id" := same.trans (if_pos rfl)
    rcases List.mem_pair.1 mem with rfl | rfl
    · exact absurd own (by decide)
    · exact absurd own (by decide)

end Query

end DataMapper
