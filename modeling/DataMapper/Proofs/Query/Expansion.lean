import DataMapper.Proofs.Sql.Regions
import DataMapper.Query.Plan
import Mathlib.Data.List.Forall2

/-!
# Placeholders against literals

A query of structured conditions can be built with placeholders and parameters, or with every value
written out. Filling the placeholders of the one by the literals of its parameters gives the other,
whatever the values are.

## Main definitions

* `Fragment.Expands`, `Query.Expands` — the one becomes the other when its placeholders are filled.
* `QueryStep.isStructured` — a step without raw text, whose names are inert.
* `QueryStep.inlined` — the same step where nothing is a parameter.
-/

namespace DataMapper

open Sql Text

/-! ## The end of a text -/

theorem trimRight_append (a b : List Char) :
    trimRight (a ++ b) = if trimRight b = [] then trimRight a else a ++ trimRight b := by
  unfold trimRight
  rw [List.reverse_append, List.dropWhile_append]
  by_cases h : b.reverse.dropWhile isBlank = [] <;> simp [h]

namespace Query

theorem needsAnd_append (a b : List Char) :
    needsAnd (a ++ b) = if trimRight b = [] then needsAnd a else needsAnd b := by
  unfold needsAnd
  rw [trimRight_append]
  by_cases blank : trimRight b = []
  · simp [blank]
  · rw [if_neg blank, if_neg blank, List.getLast?_append_of_ne_nil _ blank]

/-- Text that ends in a character which is neither blank nor an opening parenthesis. -/
def EndsSolid (cs : List Char) : Prop :=
  ∃ front c, cs = front ++ [c] ∧ isBlank c = false ∧ c ≠ '('

theorem EndsSolid.ne_nil {cs : List Char} (h : EndsSolid cs) : cs ≠ [] := by
  obtain ⟨front, c, rfl, -⟩ := h
  simp

theorem EndsSolid.trimRight_ne_nil {cs : List Char} (h : EndsSolid cs) : trimRight cs ≠ [] := by
  obtain ⟨front, c, rfl, solid, -⟩ := h
  simp [trimRight, solid]

theorem EndsSolid.needsAnd {cs : List Char} (h : EndsSolid cs) : needsAnd cs = true := by
  obtain ⟨front, c, rfl, solid, other⟩ := h
  simp [Query.needsAnd, trimRight, solid, other]

/-- Whether a conjunct needs a conjunction does not depend on what stands for the placeholders. -/
theorem needsAnd_substitute (m : Mode) (ts : List (List Char)) (h : ∀ t ∈ ts, EndsSolid t)
    (cs : List Char) :
    needsAnd (substitute m ts cs) = needsAnd cs ∧
      (trimRight (substitute m ts cs) = [] ↔ trimRight cs = []) := by
  induction cs generalizing m ts with
  | nil => simp [substitute]
  | cons c cs ih =>
    have same (front back : List Char) (rest : List (List Char)) (hr : ∀ t ∈ rest, EndsSolid t)
        (hn : Query.needsAnd front = Query.needsAnd back)
        (ht : trimRight front = [] ↔ trimRight back = []) :
        Query.needsAnd (front ++ substitute (m.step c) rest cs) = Query.needsAnd (back ++ cs) ∧
          (trimRight (front ++ substitute (m.step c) rest cs) = [] ↔
            trimRight (back ++ cs) = []) := by
      obtain ⟨hn', ht'⟩ := ih (m.step c) rest hr
      rw [needsAnd_append, needsAnd_append, trimRight_append, trimRight_append]
      simp only [ht', hn', hn]
      by_cases none : trimRight cs = [] <;> simp [none, ht, ht']
    have unchanged : substitute m ts (c :: cs) = c :: substitute (m.step c) ts cs →
        Query.needsAnd (substitute m ts (c :: cs)) = Query.needsAnd (c :: cs) ∧
          (trimRight (substitute m ts (c :: cs)) = [] ↔ trimRight (c :: cs) = []) := by
      intro step
      rw [step]
      exact same [c] [c] ts h rfl Iff.rfl
    cases hc : isPlaceholder m c with
    | false => exact unchanged (by simp [substitute, hc])
    | true =>
      cases ts with
      | nil => exact unchanged (by simp [substitute, hc])
      | cons t ts =>
        obtain ⟨ht, hts⟩ := List.forall_mem_cons.1 h
        have mark : c = '?' := by
          simp only [isPlaceholder, Bool.and_eq_true, beq_iff_eq] at hc
          exact hc.2
        have solid : EndsSolid [c] := ⟨[], c, rfl, by rw [mark]; decide, by rw [mark]; decide⟩
        have step : substitute m (t :: ts) (c :: cs) = t ++ substitute (m.step c) ts cs := by
          simp [substitute, hc]
        rw [step]
        exact same t [c] ts hts (ht.needsAnd.trans solid.needsAnd.symm)
          (by simp [ht.trimRight_ne_nil, solid.trimRight_ne_nil])

end Query

/-! ## Literals at the end of a text -/

theorem isBlank_of_isWordChar {c : Char} (h : isWordChar c = true) : isBlank c = false := by
  simp only [isWordChar, Bool.or_eq_true, beq_iff_eq] at h
  rcases h with (letter | rfl) | rfl
  · have ranges : ((decide (65 ≤ c.val ∧ c.val ≤ 90) || (97 ≤ c.val && c.val ≤ 122)) ||
        (48 ≤ c.val && c.val ≤ 57)) = true := letter
    simp only [Bool.or_eq_true, Bool.and_eq_true, decide_eq_true_eq, UInt32.le_iff_toNat_le]
      at ranges
    have range : (65 ≤ c.toNat ∧ c.toNat ≤ 90 ∨ 97 ≤ c.toNat ∧ c.toNat ≤ 122) ∨
        48 ≤ c.toNat ∧ c.toNat ≤ 57 := ranges
    simp only [isBlank, Bool.or_eq_false_iff, Bool.and_eq_false_iff, decide_eq_false_iff_not,
      beq_eq_false_iff_ne]
    omega
  · decide
  · decide

theorem Sql.Word.endsSolid {cs : List Char} (h : Word cs) : Query.EndsSolid cs := by
  obtain ⟨ne, word⟩ := h
  have last := word _ (List.getLast_mem ne)
  refine ⟨cs.dropLast, cs.getLast ne, (List.dropLast_append_getLast ne).symm,
    isBlank_of_isWordChar last, ?_⟩
  intro paren
  rw [paren] at last
  exact absurd last (by decide)

theorem Sql.LiteralShape.endsSolid {cs : List Char} (h : LiteralShape cs) :
    Query.EndsSolid cs := by
  cases h with
  | word h => exact h.endsSolid
  | negative h =>
    obtain ⟨front, c, same, solid, other⟩ := h.endsSolid
    exact ⟨'-' :: front, c, by rw [same]; rfl, solid, other⟩
  | quoted cs => exact ⟨_, '\'', rfl, by decide, by decide⟩
  | bytes cs => exact ⟨'X' :: '\'' :: cs.flatMap quoteChar, '\'', rfl, by decide, by decide⟩

theorem endsSolid_literals (vs : List Value) : ∀ t ∈ vs.map literalChars, Query.EndsSolid t := by
  intro t ht
  obtain ⟨v, -, rfl⟩ := List.mem_map.1 ht
  exact (literalChars_shape v).endsSolid

/-! ## Fragments -/

namespace Fragment

/-- With its placeholders filled by the literals of its parameters the first fragment is the second
one, which has none; and the scan of it ends in live text. -/
structure Expands (a b : Fragment) : Prop where
  run : Mode.plain.run a.text = .plain
  count : placeholderCount .plain a.text = a.parameters.length
  filled : substitute .plain (a.parameters.map literalChars) a.text = b.text
  rest : b.parameters = []

theorem expands_of_closed {cs : List Char} (h : Closed cs) : (ofText cs).Expands (ofText cs) where
  run := h.1
  count := h.2
  filled := substitute_of_placeholderCount_eq_zero h.2 _
  rest := rfl

theorem expands_ofString {s : String} (h : Closed s.toList) : (ofString s).Expands (ofString s) :=
  expands_of_closed h

theorem expands_empty : empty.Expands empty := expands_of_closed closed_nil

theorem Expands.append {a b c d : Fragment} (h : a.Expands b) (g : c.Expands d) :
    (a ++ c).Expands (b ++ d) where
  run := by rw [text_append, Mode.run_append, h.run, g.run]
  count := by
    rw [text_append, parameters_append, placeholderCount_append, h.run, h.count, g.count,
      List.length_append]
  filled := by
    rw [text_append, parameters_append, List.map_append, substitute_append (by simp [h.count]),
      h.run, h.filled, g.filled, text_append]
  rest := by rw [parameters_append, h.rest, g.rest]; rfl

theorem Expands.join {s t : Fragment} (hs : s.Expands t) {as bs : List Fragment}
    (h : List.Forall₂ Expands as bs) : (join s as).Expands (join t bs) := by
  induction h with
  | nil => exact expands_empty
  | cons first rest ih =>
    cases rest with
    | nil => exact first
    | cons => exact (first.append hs).append ih

theorem expands_map {ι : Type} {is : List ι} {f g : ι → Fragment}
    (h : ∀ i ∈ is, (f i).Expands (g i)) : List.Forall₂ Expands (is.map f) (is.map g) := by
  rw [List.forall₂_map_left_iff, List.forall₂_map_right_iff]
  exact List.forall₂_same.2 h

/-- Both are empty, or none is. -/
theorem Expands.isEmpty_eq {a b : Fragment} (h : a.Expands b) : b.isEmpty = a.isEmpty := by
  unfold isEmpty
  rw [← h.filled, substitute_isEmpty]
  exact fun t ht => (endsSolid_literals _ t ht).ne_nil

/-- Both need a conjunction behind them, or none does. -/
theorem Expands.needsAnd_eq {a b : Fragment} (h : a.Expands b) :
    Query.needsAnd b.text = Query.needsAnd a.text := by
  rw [← h.filled]
  exact (Query.needsAnd_substitute _ _ (endsSolid_literals _) _).1

end Fragment

/-- The options without parameters. -/
def BuildOptions.inlined (o : BuildOptions) : BuildOptions := { o with parameterized := false }

theorem closed_currentTimestamp (d : Dialect) : Closed d.currentTimestamp.toList := by
  cases d <;> decide

theorem Fragment.expands_ofValue (o : BuildOptions) (v : Value) :
    (ofValue o v).Expands (ofValue o.inlined v) := by
  have literal (v : Value) := expands_of_closed (closed_literalChars v)
  have mark (v : Value) : Expands ⟨['?'], [v]⟩ (ofText (literalChars v)) :=
    { run := rfl, count := rfl, filled := by simp [substitute, isPlaceholder, Mode.isLive, ofText],
      rest := rfl }
  have other (v : Value) :
      Expands
        (if o.inlineLiterals && v.isSimple then ofText (literalChars v)
          else if o.parameterized then ⟨['?'], [v]⟩ else ofText (literalChars v))
        (if o.inlined.inlineLiterals && v.isSimple then ofText (literalChars v)
          else if o.inlined.parameterized then ⟨['?'], [v]⟩ else ofText (literalChars v)) := by
    cases simple : o.inlineLiterals && v.isSimple with
    | true => simpa [BuildOptions.inlined, simple] using literal v
    | false =>
      cases bound : o.parameterized with
      | true => simpa [BuildOptions.inlined, simple, bound] using mark v
      | false => simpa [BuildOptions.inlined, simple, bound] using literal v
  cases v with
  | null => exact expands_ofString (by decide)
  | serverNow => exact expands_ofString (closed_currentTimestamp o.dialect)
  | bool | int | float | decimal | char | text | bytes | date | time | timestamp | timestampUtc
  | uuid | json | enumName => exact other _

/-! ## Names -/

/-- A name or a text that neither delimits a region nor marks a placeholder. -/
def isInertText (s : String) : Bool := s.toList.all isInert

theorem closed_of_isInertText {s : String} (h : isInertText s = true) : Closed s.toList :=
  closed_of_all_isInert h

theorem expands_of_isInertText {s : String} (h : isInertText s = true) :
    (Fragment.ofString s).Expands (.ofString s) :=
  Fragment.expands_ofString (closed_of_isInertText h)

theorem isInertText_repr (n : Nat) : isInertText n.repr = true := by
  rw [isInertText, Nat.toList_repr]
  exact (word_toDigits n).all_isInert

theorem isInertText_trim {s : String} (h : isInertText s = true) : isInertText (trim s) = true := by
  simp only [isInertText, List.all_eq_true] at h ⊢
  intro c hc
  simp only [trim, trimRight, trimLeft, String.toList_ofList, List.mem_reverse] at hc
  have kept := List.mem_reverse.1 ((List.dropWhile_sublist _).subset hc)
  exact h c ((List.dropWhile_sublist _).subset kept)

/-! ## Queries -/

inductive Statement.Expands : Statement → Statement → Prop where
  | select {columns orderBy : Option String} {limit offset : Option Nat}
      (columns_inert : ∀ t ∈ columns, isInertText t = true)
      (order_inert : ∀ t ∈ orderBy, isInertText t = true) :
      Expands (.select columns orderBy limit offset) (.select columns orderBy limit offset)
  | update {a b : Fragment} (h : a.Expands b) : Expands (.update a) (.update b)
  | delete (on : Bool) : Expands (.delete on) (.delete on)

namespace Query

/-- The names of the query are inert, and its clauses become those of the other one, which is built
without parameters, when their placeholders are filled. -/
structure Expands (q r : Query) : Prop where
  table : r.table = q.table
  options : r.options = q.options.inlined
  tableAlias : r.tableAlias = q.tableAlias
  suffix : r.suffix = q.suffix
  table_inert : isInertText q.table = true
  separator_inert : isInertText q.options.separator = true
  alias_inert : ∀ a ∈ q.tableAlias, isInertText a = true
  suffix_inert : ∀ s ∈ q.suffix, isInertText s = true
  statement : q.statement.Expands r.statement
  condition : q.condition.Expands r.condition
  joins : q.joins.Expands r.joins

theorem isInertText_of_mem_optionalText {s t : String} (hs : isInertText s = true)
    (ht : t ∈ optionalText s) : isInertText t = true := by
  unfold optionalText at ht
  dsimp only at ht
  split at ht
  · cases ht
  · obtain rfl := Option.some.inj ht
    exact isInertText_trim hs

theorem expands_inText (negated : Bool) : (inText negated).Expands (inText negated) :=
  Fragment.expands_ofString (by cases negated <;> decide)

variable {q r : Query} (h : q.Expands r)
include h

theorem Expands.separator : q.separator.Expands r.separator := by
  unfold Query.separator
  rw [h.options]
  exact expands_of_isInertText h.separator_inert

theorem Expands.clause {word : String} (hw : Closed word.toList) {a b : Fragment}
    (g : a.Expands b) : (q.clause word a).Expands (r.clause word b) := by
  unfold Query.clause
  rw [g.isEmpty_eq]
  split
  · exact Fragment.expands_empty
  · exact (h.separator.append (Fragment.expands_ofString hw)).append g

theorem Expands.tableText : q.tableText.Expands r.tableText := by
  unfold Query.tableText
  rw [h.table, h.tableAlias, h.suffix]
  refine ((expands_of_isInertText h.table_inert).append ?_).append ?_
  · cases named : q.tableAlias with
    | none => exact Fragment.expands_empty
    | some a =>
      exact (Fragment.expands_ofString (by decide)).append
        (expands_of_isInertText (h.alias_inert a named))
  · cases named : q.suffix with
    | none => exact Fragment.expands_empty
    | some s =>
      exact (Fragment.expands_ofString (by decide)).append
        (expands_of_isInertText (h.suffix_inert s named))

theorem Expands.source : q.source.Expands r.source :=
  (h.tableText.append (h.clause (by decide) h.joins)).append (h.clause (by decide) h.condition)

theorem Expands.option {word : String} (hw : Closed word.toList) {text : Option String}
    (inert : ∀ t ∈ text, isInertText t = true) :
    (q.option word text).Expands (r.option word text) := by
  cases text with
  | none => exact Fragment.expands_empty
  | some t =>
    exact (h.separator.append (Fragment.expands_ofString hw)).append
      (expands_of_isInertText (inert t rfl))

theorem Expands.countFragment : q.countFragment.Expands r.countFragment :=
  (Fragment.expands_ofString (by decide)).append h.source

theorem Expands.fragment : q.fragment.Expands r.fragment := by
  have fixed {s : String} (hs : Closed s.toList) := Fragment.expands_ofString hs
  have number (n : Option Nat) : ∀ t ∈ n.map Nat.repr, isInertText t = true := by
    intro t ht
    obtain ⟨k, -, rfl⟩ := Option.map_eq_some_iff.1 ht
    exact isInertText_repr k
  have statement := h.statement
  unfold Query.fragment
  generalize q.statement = s at statement ⊢
  generalize r.statement = t at statement ⊢
  cases statement with
  | @select columns orderBy limit offset columns_inert order_inert =>
    have selected : (Fragment.ofString (columns.getD "*")).Expands
        (.ofString (columns.getD "*")) := by
      cases columns with
      | none => exact fixed (by decide)
      | some text => exact expands_of_isInertText (columns_inert text rfl)
    exact ((((((fixed (by decide)).append selected).append (fixed (by decide))).append
      h.source).append (h.option (by decide) order_inert)).append
      (h.option (by decide) (number limit))).append (h.option (by decide) (number offset))
  | update assigned =>
    exact ((((((fixed (by decide)).append h.tableText).append
      (h.clause (by decide) h.joins)).append h.separator).append (fixed (by decide))).append
      assigned).append (h.clause (by decide) h.condition)
  | delete on => exact (fixed (by decide)).append h.source

/-! ## Conditions -/

theorem Expands.columnText {column : String} (inert : isInertText column = true) :
    (q.columnText column).Expands (r.columnText column) := by
  unfold Query.columnText
  rw [h.tableAlias]
  cases named : q.tableAlias with
  | none => exact expands_of_isInertText inert
  | some a =>
    dsimp only
    split
    · exact expands_of_isInertText inert
    · exact ((expands_of_isInertText (h.alias_inert a named)).append
        (Fragment.expands_ofString (by decide))).append (expands_of_isInertText inert)

theorem Expands.valueText (v : Value) : (q.valueText v).Expands (r.valueText v) := by
  unfold Query.valueText
  rw [h.options]
  exact Fragment.expands_ofValue _ v

theorem Expands.andText : q.andText.Expands r.andText :=
  h.separator.append (Fragment.expands_ofString (by decide))

theorem Expands.addCondition (conjunct : Bool) {a b : Fragment} (g : a.Expands b) :
    (q.addCondition conjunct a).Expands (r.addCondition conjunct b) := by
  have link : (if conjunct && needsAnd q.condition.text then q.andText else .empty).Expands
      (if conjunct && needsAnd r.condition.text then r.andText else .empty) := by
    rw [h.condition.needsAnd_eq]
    split
    · exact h.andText
    · exact Fragment.expands_empty
  exact { h with condition := (h.condition.append link).append g }

theorem Expands.compare (conjunct : Bool) {column : String} (inert : isInertText column = true)
    (v : Value) (negated : Bool) :
    (q.compare conjunct column v negated).Expands (r.compare conjunct column v negated) := by
  refine h.addCondition conjunct ?_
  unfold comparison
  split
  · exact (h.columnText inert).append (Fragment.expands_ofString (by cases negated <;> decide))
  · exact ((h.columnText inert).append
      (Fragment.expands_ofString (by cases negated <;> decide))).append (h.valueText v)

theorem Expands.membership {column : String} (inert : isInertText column = true)
    (vs : List Value) (negated : Bool) :
    (q.membership column vs negated).Expands (r.membership column vs negated) := by
  have values := Fragment.expands_map fun v (_ : v ∈ vs) => h.valueText v
  exact (((h.columnText inert).append (expands_inText negated)).append
    ((Fragment.expands_ofString (by decide)).join values)).append
    (Fragment.expands_ofString (by decide))

theorem Expands.withinQuery (conjunct : Bool) {column : String}
    (inert : isInertText column = true) {nested nested' : Query} (g : nested.Expands nested')
    (negated : Bool) :
    (q.withinQuery conjunct column nested negated).Expands
      (r.withinQuery conjunct column nested' negated) :=
  h.addCondition conjunct ((((h.columnText inert).append (expands_inText negated)).append
    g.fragment).append (Fragment.expands_ofString (by decide)))

theorem Expands.between (conjunct : Bool) {column : String} (inert : isInertText column = true)
    (first last : Option Calendar.Date) :
    (q.between conjunct column first last).Expands (r.between conjunct column first last) := by
  have bound {sign : String} (hs : Closed sign.toList) (d : Calendar.Date) :
      (q.columnText column ++ .ofString sign ++ q.valueText (.date d)).Expands
        (r.columnText column ++ .ofString sign ++ r.valueText (.date d)) :=
    ((h.columnText inert).append (Fragment.expands_ofString hs)).append (h.valueText _)
  unfold Query.between
  split
  · exact h
  · refine h.addCondition conjunct (h.andText.join ?_)
    cases first with
    | none =>
      cases last with
      | none => exact .nil
      | some d => exact .cons (bound (by decide) _) .nil
    | some d =>
      cases last with
      | none => exact .cons (bound (by decide) _) .nil
      | some e => exact .cons (bound (by decide) _) (.cons (bound (by decide) _) .nil)

/-! ## Search -/

theorem Expands.likeText (pattern : String) :
    (q.likeText pattern).Expands (r.likeText pattern) := by
  unfold Query.likeText
  rw [h.options]
  refine ((Fragment.expands_ofString (by decide)).append (h.valueText _)).append ?_
  cases hd : q.options.dialect <;> simp only [BuildOptions.inlined, hd] <;>
    exact Fragment.expands_ofString (by decide)

theorem Expands.outerName : r.outerName = q.outerName := by
  unfold Query.outerName
  rw [h.table, h.tableAlias]

theorem Expands.isInertText_outerName : isInertText q.outerName = true := by
  unfold Query.outerName
  cases named : q.tableAlias with
  | none => exact h.table_inert
  | some a => exact h.alias_inert a named

end Query

/-- The names in a foreign column are inert. -/
def ForeignColumn.isInert (f : ForeignColumn) : Bool :=
  isInertText f.table && isInertText f.column && isInertText f.foreignKey &&
    isInertText f.referencedKey

namespace Query

/-- Change the statement of a query for rows. -/
def restated (q : Query)
    (f : Option String → Option String → Option Nat → Option Nat → Statement) : Query :=
  match q.statement with
  | .select columns orderBy limit offset => { q with statement := f columns orderBy limit offset }
  | _ => q

variable {q r : Query} (h : q.Expands r)
include h

theorem Expands.foreignMatch (pattern : String) {f : ForeignColumn} (inert : f.isInert = true) :
    (q.foreignMatch pattern f).Expands (r.foreignMatch pattern f) := by
  simp only [ForeignColumn.isInert, Bool.and_eq_true] at inert
  obtain ⟨⟨⟨table, column⟩, foreignKey⟩, referencedKey⟩ := inert
  unfold Query.foreignMatch
  rw [h.outerName]
  refine ((Fragment.expands_ofString ?_).append (h.likeText pattern)).append
    (Fragment.expands_ofString (by decide))
  have outer := h.isInertText_outerName
  simp only [String.toList_append]
  repeat' apply Closed.append
  all_goals first | decide | exact closed_of_isInertText ‹_›

theorem Expands.wordMatch {columns : List String} (hc : columns.all isInertText = true)
    {foreign : List ForeignColumn} (hf : foreign.all ForeignColumn.isInert = true)
    (word : List Char) :
    (q.wordMatch columns foreign word).Expands (r.wordMatch columns foreign word) := by
  rw [List.all_eq_true] at hc hf
  refine ((Fragment.expands_ofString (by decide)).append
    ((Fragment.expands_ofString (by decide)).join (List.rel_append ?_ ?_))).append
    (Fragment.expands_ofString (by decide))
  · exact Fragment.expands_map fun c hmem => (h.columnText (hc c hmem)).append (h.likeText _)
  · exact Fragment.expands_map fun f hmem => h.foreignMatch _ (hf f hmem)

theorem Expands.searchText (method : SearchMethod) {columns : List String}
    (hc : columns.all isInertText = true) {foreign : List ForeignColumn}
    (hf : foreign.all ForeignColumn.isInert = true) (ws : List (List Char)) :
    (q.searchText method columns foreign ws).Expands (r.searchText method columns foreign ws) := by
  have each := Fragment.expands_map fun w (_ : w ∈ ws) => h.wordMatch hc hf w
  have all {s : String} (hs : isInertText s = true) := (expands_of_isInertText hs).join each
  have enclosed {a b : Fragment} (g : a.Expands b) :=
    ((Fragment.expands_ofString (s := "(") (by decide)).append g).append
      (Fragment.expands_ofString (s := ")") (by decide))
  unfold Query.searchText
  cases method with
  | allWords =>
    dsimp only
    split
    · exact enclosed (all (by decide))
    · exact all (by decide)
  | anyWord =>
    dsimp only
    split
    · exact enclosed (all (by decide))
    · exact all (by decide)

/-! ## Joins and assignments -/

theorem Expands.addJoin {a b : Fragment} (g : a.Expands b) :
    (q.addJoin a).Expands (r.addJoin b) := by
  unfold Query.addJoin
  rw [h.joins.isEmpty_eq]
  split
  · exact { h with joins := h.joins.append g }
  · exact { h with joins := (h.joins.append h.separator).append g }

theorem Expands.join {left tableAlias : Option String}
    {foreignKey referenced referencedKey : String}
    (hl : ∀ s ∈ left, isInertText s = true) (ha : ∀ s ∈ tableAlias, isInertText s = true)
    (hf : isInertText foreignKey = true) (ht : isInertText referenced = true)
    (hk : isInertText referencedKey = true) (type : JoinType) :
    (q.join left foreignKey referenced tableAlias referencedKey type).Expands
      (r.join left foreignKey referenced tableAlias referencedKey type) := by
  have from_ : isInertText (left.getD q.outerName) = true := by
    cases left with
    | none => exact h.isInertText_outerName
    | some s => exact hl s rfl
  have keyword : Closed type.keyword.toList := by cases type <;> decide
  unfold Query.join
  rw [h.outerName]
  refine h.addJoin (Fragment.expands_ofString ?_)
  simp only [String.toList_append]
  cases tableAlias with
  | none =>
    repeat' apply Closed.append
    all_goals first | decide | assumption | exact closed_of_isInertText ‹_›
  | some a =>
    have named := ha a rfl
    simp only [String.toList_append, Option.getD_some]
    repeat' apply Closed.append
    all_goals first | decide | assumption | exact closed_of_isInertText ‹_›

theorem Expands.addAssignment {a b : Fragment} (g : a.Expands b) :
    (q.addAssignment a).Expands (r.addAssignment b) := by
  have statement := h.statement
  unfold Query.addAssignment
  generalize q.statement = s at statement ⊢
  generalize r.statement = t at statement ⊢
  cases statement with
  | update assigned =>
    dsimp only
    rw [assigned.isEmpty_eq]
    split
    · exact { h with statement := .update (assigned.append g) }
    · exact { h with
        statement := .update ((assigned.append (Fragment.expands_ofString (by decide))).append g) }
  | select | delete => exact h

theorem Expands.assign {column : String} (inert : isInertText column = true) (v : Value) :
    (q.assign column v).Expands (r.assign column v) :=
  h.addAssignment (((expands_of_isInertText inert).append
    (Fragment.expands_ofString (by decide))).append (h.valueText v))

/-! ## Options -/

theorem Expands.named {a : Option String} (inert : ∀ s ∈ a, isInertText s = true) :
    ({ q with tableAlias := a } : Query).Expands { r with tableAlias := a } :=
  { h with tableAlias := rfl, alias_inert := inert }

theorem Expands.withAlias {s : String} (hs : isInertText s = true) :
    (q.withAlias s).Expands (r.withAlias s) :=
  h.named fun _ => isInertText_of_mem_optionalText hs

theorem Expands.suffixed {a : Option String} (inert : ∀ s ∈ a, isInertText s = true) :
    ({ q with suffix := a } : Query).Expands { r with suffix := a } :=
  { h with suffix := rfl, suffix_inert := inert }

theorem Expands.withSuffix {s : String} (hs : isInertText s = true) :
    (q.withSuffix s).Expands (r.withSuffix s) :=
  h.suffixed fun _ => isInertText_of_mem_optionalText hs

theorem Expands.withOptions {f g : BuildOptions → BuildOptions}
    (same : ∀ o : BuildOptions, g o.inlined = (f o).inlined)
    (inert : isInertText (f q.options).separator = true) :
    (q.withOptions f).Expands (r.withOptions g) :=
  { h with options := by simp only [Query.withOptions, h.options, same], separator_inert := inert }

/-- What is changed in the statement of a query for rows is inert again. -/
theorem Expands.restated
    {f : Option String → Option String → Option Nat → Option Nat → Statement}
    (g : ∀ {columns orderBy : Option String}, (∀ t ∈ columns, isInertText t = true) →
      (∀ t ∈ orderBy, isInertText t = true) → ∀ limit offset,
      (f columns orderBy limit offset).Expands (f columns orderBy limit offset)) :
    (q.restated f).Expands (r.restated f) := by
  have statement := h.statement
  unfold Query.restated
  generalize q.statement = s at statement ⊢
  generalize r.statement = t at statement ⊢
  cases statement with
  | select columns_inert order_inert =>
    exact { h with statement := g columns_inert order_inert _ _ }
  | update | delete => exact h

theorem Expands.withColumns {text : String} (inert : isInertText text = true) :
    (q.withColumns text).Expands (r.withColumns text) :=
  h.restated (f := fun _ orderBy => .select (some text) orderBy) fun _ order_inert _ _ =>
    .select (by simpa using inert) order_inert

theorem Expands.withOrder {text : String} (inert : isInertText text = true) :
    (q.withOrder text).Expands (r.withOrder text) :=
  h.restated (f := fun columns _ => .select columns (some text)) fun columns_inert _ _ _ =>
    .select columns_inert (by simpa using inert)

theorem Expands.withLimit (n : Nat) : (q.withLimit n).Expands (r.withLimit n) :=
  h.restated (f := fun columns orderBy _ => .select columns orderBy (some n))
    fun columns_inert order_inert _ _ => .select columns_inert order_inert

theorem Expands.withOffset (n : Nat) : (q.withOffset n).Expands (r.withOffset n) :=
  h.restated (f := fun columns orderBy limit _ => .select columns orderBy limit (some n))
    fun columns_inert order_inert _ _ => .select columns_inert order_inert

theorem Expands.allowUnfiltered (on : Bool) :
    (q.allowUnfiltered on).Expands (r.allowUnfiltered on) := by
  have statement := h.statement
  unfold Query.allowUnfiltered
  generalize q.statement = s at statement ⊢
  generalize r.statement = t at statement ⊢
  cases statement with
  | delete before => exact { h with statement := .delete on }
  | select | update => exact h

end Query

/-! ## Plans -/

/-- The name of the table is inert. -/
def QueryTarget.isInert (target : QueryTarget) : Bool :=
  match target.tableName with
  | .ok name => isInertText name
  | .error _ => true

theorem QueryTarget.tableName_cases {target : QueryTarget} (h : target.isInert = true) :
    (∃ name, target.tableName = .ok name ∧ isInertText name = true) ∨
      ∃ e, target.tableName = .error e := by
  unfold QueryTarget.isInert at h
  cases outcome : target.tableName with
  | ok name => exact .inl ⟨name, rfl, by simpa [outcome] using h⟩
  | error e => exact .inr ⟨e, rfl⟩

mutual

/-- A step without raw text; the names, the separators and the texts that it is given are inert. -/
def QueryStep.isStructured : QueryStep → Bool
  | .tableAlias text => isInertText text
  | .suffix text => isInertText text
  | .separator text => isInertText text
  | .parameterized _ => true
  | .inlineLiterals _ => true
  | .dialect _ => true
  | .raw .. => false
  | .rawWith .. => false
  | .compare _ column _ _ => isInertText column
  | .within _ column _ _ => isInertText column
  | .withinQuery _ column nested _ => isInertText column && nested.isStructured
  | .between _ column _ _ => isInertText column
  | .search _ _ _ columns foreign =>
    columns.all isInertText && foreign.all ForeignColumn.isInert
  | .join left foreignKey referenced tableAlias referencedKey _ =>
    left.all isInertText && isInertText foreignKey && referenced.isInert &&
      tableAlias.all isInertText && isInertText referencedKey
  | .joinRaw .. => false
  | .columns text => isInertText text
  | .orderBy text => isInertText text
  | .limit _ => true
  | .offset _ => true
  | .assign column _ => isInertText column
  | .assignRaw .. => false
  | .allowUnfiltered _ => true

def QueryStep.allStructured : List QueryStep → Bool
  | [] => true
  | s :: ss => s.isStructured && QueryStep.allStructured ss

def QueryPlan.isStructured : QueryPlan → Bool
  | .plan _ target options steps =>
    target.isInert && options.all (fun o => isInertText o.separator) &&
      QueryStep.allStructured steps

end

mutual

/-- The same step with nothing parameterized, not in nested queries either. -/
def QueryStep.inlined : QueryStep → QueryStep
  | .parameterized _ => .parameterized false
  | .withinQuery conjunct column nested negated =>
    .withinQuery conjunct column nested.inlined negated
  | s => s

def QueryStep.inlinedAll : List QueryStep → List QueryStep
  | [] => []
  | s :: ss => s.inlined :: QueryStep.inlinedAll ss

def QueryPlan.inlined : QueryPlan → QueryPlan
  | .plan kind target options steps =>
    .plan kind target (options.map BuildOptions.inlined) (QueryStep.inlinedAll steps)

end

namespace Query

/-- Both queries could be built and the one becomes the other, or neither could, for the same
reason. -/
inductive BothExpand : Except Error Query → Except Error Query → Prop where
  | ok {q r : Query} (h : q.Expands r) : BothExpand (.ok q) (.ok r)
  | error (e : Error) : BothExpand (.error e) (.error e)

theorem expands_start (kind : QueryKind) {table : String} (ht : isInertText table = true)
    {o : BuildOptions} (ho : isInertText o.separator = true) :
    (start kind table o).Expands (start kind table o.inlined) := by
  have none_inert : ∀ t ∈ (none : Option String), isInertText t = true := by simp
  cases kind with
  | select =>
    exact ⟨rfl, rfl, rfl, rfl, ht, ho, none_inert, none_inert, .select none_inert none_inert,
      Fragment.expands_empty, Fragment.expands_empty⟩
  | update =>
    exact ⟨rfl, rfl, rfl, rfl, ht, ho, none_inert, none_inert, .update Fragment.expands_empty,
      Fragment.expands_empty, Fragment.expands_empty⟩
  | delete =>
    exact ⟨rfl, rfl, rfl, rfl, ht, ho, none_inert, none_inert, .delete false,
      Fragment.expands_empty, Fragment.expands_empty⟩

variable {q r : Query} (h : q.Expands r)
include h

theorem Expands.within (conjunct : Bool) {column : String} (inert : isInertText column = true)
    (vs : List Value) (negated : Bool) :
    BothExpand (q.within conjunct column vs negated) (r.within conjunct column vs negated) := by
  unfold Query.within
  match vs with
  | [] =>
    dsimp only
    split
    · exact .ok h
    · exact .error _
  | [v] => exact .ok (h.compare conjunct inert v negated)
  | v :: w :: vs =>
    exact .ok (h.addCondition conjunct (h.membership inert (v :: w :: vs) negated))

theorem Expands.search (conjunct : Bool) (phrase : String) (method : SearchMethod)
    {columns : List String} (hc : columns.all isInertText = true) {foreign : List ForeignColumn}
    (hf : foreign.all ForeignColumn.isInert = true) :
    BothExpand (q.search conjunct phrase method columns foreign)
      (r.search conjunct phrase method columns foreign) := by
  unfold Query.search
  dsimp only
  split
  · exact .error _
  · split
    · exact .error _
    · exact .ok (h.addCondition conjunct (h.searchText method hc hf _))

end Query

mutual

theorem QueryStep.apply_inlined {o : BuildOptions} (ho : isInertText o.separator = true)
    {q r : Query} (h : q.Expands r) (s : QueryStep) (hs : s.isStructured = true) :
    Query.BothExpand (s.apply o q) (s.inlined.apply o.inlined r) := by
  cases s with
  | tableAlias text => exact .ok (h.withAlias hs)
  | suffix text => exact .ok (h.withSuffix hs)
  | separator text => exact .ok (h.withOptions (fun _ => rfl) hs)
  | parameterized on => exact .ok (h.withOptions (fun _ => rfl) h.separator_inert)
  | inlineLiterals on => exact .ok (h.withOptions (fun _ => rfl) h.separator_inert)
  | dialect d => exact .ok (h.withOptions (fun _ => rfl) h.separator_inert)
  | raw | rawWith | joinRaw | assignRaw => cases hs
  | compare conjunct column value negated => exact .ok (h.compare conjunct hs value negated)
  | within conjunct column values negated => exact h.within conjunct hs values negated
  | withinQuery conjunct column nested negated =>
    simp only [QueryStep.isStructured, Bool.and_eq_true] at hs
    have sub := QueryPlan.build_inlined ho nested hs.2
    simp only [QueryStep.apply, QueryStep.inlined]
    generalize nested.build o = built at sub ⊢
    generalize nested.inlined.build o.inlined = built' at sub ⊢
    cases sub with
    | ok g => exact .ok (h.withinQuery conjunct hs.1 g negated)
    | error e => exact .error e
  | between conjunct column first last => exact .ok (h.between conjunct hs first last)
  | search conjunct phrase method columns foreign =>
    simp only [QueryStep.isStructured, Bool.and_eq_true] at hs
    exact h.search conjunct phrase method hs.1 hs.2
  | join left foreignKey referenced tableAlias referencedKey type =>
    simp only [QueryStep.isStructured, Bool.and_eq_true, Option.all_eq_true] at hs
    obtain ⟨⟨⟨⟨hl, hf⟩, ht⟩, ha⟩, hk⟩ := hs
    simp only [QueryStep.apply, QueryStep.inlined]
    obtain ⟨name, named, inert⟩ | ⟨e, none⟩ := QueryTarget.tableName_cases ht
    · rw [named]
      exact .ok (h.join hl ha hf inert hk type)
    · rw [none]
      exact .error e
  | columns text => exact .ok (h.withColumns hs)
  | orderBy text => exact .ok (h.withOrder hs)
  | limit n => exact .ok (h.withLimit n)
  | offset n => exact .ok (h.withOffset n)
  | assign column value => exact .ok (h.assign hs value)
  | allowUnfiltered on => exact .ok (h.allowUnfiltered on)

theorem QueryStep.applyAll_inlined {o : BuildOptions} (ho : isInertText o.separator = true)
    {q r : Query} (h : q.Expands r) (ss : List QueryStep)
    (hs : QueryStep.allStructured ss = true) :
    (QueryStep.applyAll o q ss).Expands
      (QueryStep.applyAll o.inlined r (QueryStep.inlinedAll ss)) := by
  cases ss with
  | nil => exact h
  | cons s ss =>
    simp only [QueryStep.allStructured, Bool.and_eq_true] at hs
    have first := QueryStep.apply_inlined ho h s hs.1
    simp only [QueryStep.applyAll, QueryStep.inlinedAll]
    generalize s.apply o q = outcome at first ⊢
    generalize s.inlined.apply o.inlined r = outcome' at first ⊢
    cases first with
    | ok g => exact QueryStep.applyAll_inlined ho g ss hs.2
    | error e => exact QueryStep.applyAll_inlined ho h ss hs.2

theorem QueryPlan.build_inlined {o : BuildOptions} (ho : isInertText o.separator = true)
    (p : QueryPlan) (hp : p.isStructured = true) :
    Query.BothExpand (p.build o) (p.inlined.build o.inlined) := by
  cases p with
  | plan kind target options steps =>
    simp only [QueryPlan.isStructured, Bool.and_eq_true] at hp
    obtain ⟨⟨ht, separator⟩, hs⟩ := hp
    have given : isInertText (options.getD o).separator = true := by
      cases options with
      | none => exact ho
      | some own => exact separator
    have same : (options.map BuildOptions.inlined).getD o.inlined = (options.getD o).inlined := by
      cases options <;> rfl
    simp only [QueryPlan.build, QueryPlan.inlined, same]
    obtain ⟨name, named, inert⟩ | ⟨e, none⟩ := QueryTarget.tableName_cases ht
    · rw [named]
      exact .ok (QueryStep.applyAll_inlined ho (Query.expands_start kind inert given) steps hs)
    · rw [none]
      exact .error e

end

/-! ## Whole queries -/

namespace Query

/-- The query selects rows. -/
def IsSelect (q : Query) : Prop :=
  ∃ columns orderBy limit offset, q.statement = .select columns orderBy limit offset

theorem IsSelect.addAssignment {q : Query} (h : q.IsSelect) (a : Fragment) :
    q.addAssignment a = q := by
  obtain ⟨columns, orderBy, limit, offset, kind⟩ := h
  simp [Query.addAssignment, kind]

/-- What holds of every query that may be built holds of the one that was. -/
theorem holds_of_map {α : Type} {P : Query → Prop} {x : Except Error α} {f : α → Query}
    {q' : Query} (each : ∀ a, P (f a)) (built : x.map f = .ok q') : P q' := by
  cases x with
  | ok a =>
    cases built
    exact each a
  | error e => cases built

theorem IsSelect.within {q q' : Query} (h : q.IsSelect) {conjunct negated : Bool} {column : String}
    {vs : List Value} (built : q.within conjunct column vs negated = .ok q') : q'.IsSelect := by
  unfold Query.within at built
  split at built
  · split at built
    · cases built
      exact h
    · cases built
  · cases built
    exact h
  · cases built
    exact h

theorem IsSelect.search {q q' : Query} (h : q.IsSelect) {conjunct : Bool} {phrase : String}
    {method : SearchMethod} {columns : List String} {foreign : List ForeignColumn}
    (built : q.search conjunct phrase method columns foreign = .ok q') : q'.IsSelect := by
  unfold Query.search at built
  dsimp only at built
  split at built
  · cases built
  · split at built
    · cases built
    · cases built
      exact h

theorem parameters_option (q : Query) (word : String) (text : Option String) :
    (q.option word text).parameters = [] := by
  cases text <;> rfl

/-- Order and limits have no parameters. -/
theorem IsSelect.parameters {q : Query} (h : q.IsSelect) :
    q.countFragment.parameters = q.parameters := by
  obtain ⟨columns, orderBy, limit, offset, kind⟩ := h
  simp [countFragment, Query.parameters, fragment, kind, parameters_option]

/-- As many placeholders as parameters, and the text of the other query once they are filled. -/
theorem Expands.text {q r : Query} (h : q.Expands r) :
    (placeholderOffsets q.text).length = q.parameters.length ∧
      substitute .plain (q.parameters.map literalChars) q.text.toList = r.text.toList := by
  refine ⟨?_, ?_⟩
  · rw [placeholderOffsets, length_offsetsFrom, Query.text, String.toList_ofList]
    exact h.fragment.count
  · simp only [Query.text, String.toList_ofList]
    exact h.fragment.filled

theorem Expands.countText {q r : Query} (h : q.Expands r) (rows : q.IsSelect) :
    (placeholderOffsets q.countText).length = q.parameters.length ∧
      substitute .plain (q.parameters.map literalChars) q.countText.toList =
        r.countText.toList := by
  rw [← rows.parameters]
  refine ⟨?_, ?_⟩
  · rw [placeholderOffsets, length_offsetsFrom, Query.countText, String.toList_ofList]
    exact h.countFragment.count
  · simp only [Query.countText, String.toList_ofList]
    exact h.countFragment.filled

end Query

namespace QueryStep

theorem isSelect_apply {o : BuildOptions} {q q' : Query} (h : q.IsSelect) {s : QueryStep}
    (taken : s.apply o q = .ok q') : q'.IsSelect := by
  obtain ⟨chosen, order, most, skipped, kind⟩ := id h
  cases s with
  | columns text =>
    cases taken
    exact ⟨some text, order, most, skipped, by simp [Query.withColumns, kind]⟩
  | orderBy text =>
    cases taken
    exact ⟨chosen, some text, most, skipped, by simp [Query.withOrder, kind]⟩
  | limit n =>
    cases taken
    exact ⟨chosen, order, some n, skipped, by simp [Query.withLimit, kind]⟩
  | offset n =>
    cases taken
    exact ⟨chosen, order, most, some n, by simp [Query.withOffset, kind]⟩
  | assign column value =>
    cases taken
    rwa [Query.assign, h.addAssignment]
  | assignRaw text values =>
    refine Query.holds_of_map (fun a => ?_) taken
    rwa [h.addAssignment]
  | allowUnfiltered on =>
    cases taken
    exact ⟨chosen, order, most, skipped, by simp [Query.allowUnfiltered, kind]⟩
  | within => exact h.within taken
  | search => exact h.search taken
  | rawWith | joinRaw | join =>
    refine Query.holds_of_map (fun _ => ?_) taken
    exact h
  | withinQuery =>
    simp only [apply] at taken
    refine Query.holds_of_map (fun _ => ?_) taken
    exact h
  | between =>
    cases taken
    unfold Query.between
    split <;> exact h
  | tableAlias text =>
    cases taken
    exact ⟨chosen, order, most, skipped, by simp [Query.withAlias, kind]⟩
  | suffix text =>
    cases taken
    exact ⟨chosen, order, most, skipped, by simp [Query.withSuffix, kind]⟩
  | separator | parameterized | inlineLiterals | dialect | raw | compare =>
    cases taken
    exact h

theorem isSelect_applyAll {o : BuildOptions} {q : Query} (h : q.IsSelect) (ss : List QueryStep) :
    (applyAll o q ss).IsSelect := by
  induction ss generalizing q with
  | nil => exact h
  | cons s ss ih =>
    simp only [applyAll]
    cases taken : s.apply o q with
    | ok q' => exact ih (isSelect_apply h taken)
    | error e => exact ih h

/-- However a structured query is built, its placeholders are as many as its parameters, and the
literals of the parameters in their place give the query built without parameters. -/
theorem substitute_literals_applyAll (kind : QueryKind) {table : String}
    (ht : isInertText table = true) {own o : BuildOptions}
    (hown : isInertText own.separator = true) (ho : isInertText o.separator = true)
    {steps : List QueryStep} (hs : allStructured steps = true) :
    let q := applyAll o (.start kind table own) steps
    let r := applyAll o.inlined (.start kind table own.inlined) (inlinedAll steps)
    (placeholderOffsets q.text).length = q.parameters.length ∧
      substitute .plain (q.parameters.map literalChars) q.text.toList = r.text.toList ∧
      (kind = .select →
        (placeholderOffsets q.countText).length = q.parameters.length ∧
          substitute .plain (q.parameters.map literalChars) q.countText.toList =
            r.countText.toList) := by
  intro q r
  have h : q.Expands r := applyAll_inlined ho (Query.expands_start kind ht hown) steps hs
  obtain ⟨count, filled⟩ := h.text
  refine ⟨count, filled, ?_⟩
  rintro rfl
  exact h.countText (isSelect_applyAll ⟨none, none, none, none, rfl⟩ steps)

/-- A list and a nested list that hold quotes, question marks and hyphens. -/
def nestedSteps : List QueryStep :=
  [.compare false "a" (.text "it's -- here?") false,
    .withinQuery true "b" (.plan .select (.table "u") none
      [.within false "c" [.text "?", .null, .text "$x$"] true, .columns "b"]) false,
    .orderBy "a", .limit 5]

theorem substitute_literals_nestedSteps :
    let q := applyAll {} (.start .select "t" {}) nestedSteps
    let r := applyAll { parameterized := false } (.start .select "t" { parameterized := false })
      (inlinedAll nestedSteps)
    q.parameters.length = 3 ∧
      q.text = "SELECT * FROM t WHERE a=? AND b IN (SELECT b FROM u WHERE c NOT IN (?,NULL,?))" ++
        " ORDER BY a LIMIT 5" ∧
      (placeholderOffsets q.text).length = q.parameters.length ∧
      substitute .plain (q.parameters.map literalChars) q.text.toList = r.text.toList ∧
      (placeholderOffsets q.countText).length = q.parameters.length ∧
      substitute .plain (q.parameters.map literalChars) q.countText.toList =
        r.countText.toList := by
  intro q r
  obtain ⟨count, filled, counted⟩ :=
    @substitute_literals_applyAll .select "t" (by decide) {} {} (by decide) (by decide) nestedSteps
      (by decide)
  exact ⟨by decide, by decide, count, filled, counted rfl⟩

end QueryStep

end DataMapper
