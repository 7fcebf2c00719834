import DataMapper.Proofs.Query.Expansion
import DataMapper.Proofs.Query.Fragments

/-!
# Conditions as conjunctions

Conjuncts that are put behind each other make up one conjunction, each of them as it would stand
alone. For no condition is blank or ends in an opening parenthesis, and none looks at the text that
it is put behind.

## Main definitions

* `QueryStep.IsConjunct` — a structured condition that is one more conjunct.
* `QueryStep.isIdle` — a condition that excludes nothing.
* `QueryStep.alone` — the condition that a step makes up on its own.

## Main statements

* `QueryStep.Conjoins` — what a conjunct can do to a query, whatever its condition is.
* `QueryStep.applyAll_conjuncts` — the condition after a sequence of conjuncts.
-/

namespace DataMapper

open Sql Text

/-! ## Solid ends -/

namespace Query

theorem EndsSolid.append {b : List Char} (h : EndsSolid b) (a : List Char) :
    EndsSolid (a ++ b) := by
  obtain ⟨front, c, rfl, solid⟩ := h
  exact ⟨a ++ front, c, (List.append_assoc a front [c]).symm, solid⟩

/-- The last character of a fixed text is looked at. -/
theorem endsSolid_of_any {cs : List Char}
    (h : (cs.getLast?.any fun c => !isBlank c && c != '(') = true) : EndsSolid cs := by
  cases last : cs.getLast? with
  | none => simp [last] at h
  | some c =>
    obtain ⟨front, rfl⟩ := List.getLast?_eq_some_iff.1 last
    exact ⟨front, c, rfl, by simpa using h⟩

theorem EndsSolid.isEmpty_eq {a : Fragment} (h : EndsSolid a.text) : a.isEmpty = false := by
  simpa [Fragment.isEmpty] using h.ne_nil

end Query

namespace Fragment

open Query

theorem endsSolid_ofValue (o : BuildOptions) (v : Value) : EndsSolid (ofValue o v).text := by
  rcases ofValue_forms o v with same | same | same | same
  all_goals rw [same]
  · exact endsSolid_of_any rfl
  · exact (literalChars_shape v).endsSolid
  · exact endsSolid_of_any rfl
  · cases o.dialect <;> exact endsSolid_of_any rfl

theorem endsSolid_join (s : Fragment) {as : List Fragment} (ne : as ≠ [])
    (each : ∀ a ∈ as, EndsSolid a.text) : EndsSolid (join s as).text := by
  induction as with
  | nil => exact absurd rfl ne
  | cons a as ih =>
    obtain ⟨first, rest⟩ := List.forall_mem_cons.1 each
    cases as with
    | nil => exact first
    | cons b bs => exact (ih (List.cons_ne_nil b bs) rest).append _

end Fragment

namespace Query

variable (q : Query)

/-- A text that ends in solid text ends so behind whatever there is. -/
theorem endsSolid_ofString {s : String}
    (h : (s.toList.getLast?.any fun c => !isBlank c && c != '(') = true) (a : Fragment) :
    EndsSolid (a ++ .ofString s).text :=
  (endsSolid_of_any h).append a.text

theorem endsSolid_comparison (column : String) (v : Value) (negated : Bool) :
    EndsSolid (q.comparison column v negated).text := by
  unfold comparison
  split
  · cases negated <;> exact endsSolid_ofString rfl _
  · exact (Fragment.endsSolid_ofValue q.options v).append _

theorem endsSolid_dayRange (column : String) {first last : Option Calendar.Date}
    (bounded : ¬ (first.isNone = true ∧ last.isNone = true)) :
    EndsSolid (q.dayRange column first last).text := by
  have solid (sign : String) (d : Calendar.Date) :
      EndsSolid (q.columnText column ++ .ofString sign ++ q.valueText (.date d)).text :=
    (Fragment.endsSolid_ofValue q.options _).append _
  unfold dayRange
  refine Fragment.endsSolid_join _ ?_ ?_
  · cases first <;> cases last <;> simp at bounded ⊢
  · intro a ha
    rcases List.mem_append.1 ha with lower | upper
    · obtain ⟨d, -, rfl⟩ := Option.map_eq_some_iff.1 (Option.mem_toList.1 lower)
      exact solid ">=" d
    · obtain ⟨d, -, rfl⟩ := Option.map_eq_some_iff.1 (Option.mem_toList.1 upper)
      exact solid "<" _

theorem endsSolid_wordMatch (columns : List String) (foreign : List ForeignColumn)
    (word : List Char) : EndsSolid (q.wordMatch columns foreign word).text :=
  endsSolid_ofString rfl _

theorem endsSolid_searchText (method : SearchMethod) (columns : List String)
    (foreign : List ForeignColumn) {ws : List (List Char)} (ne : ws ≠ []) :
    EndsSolid (q.searchText method columns foreign ws).text := by
  unfold searchText
  dsimp only
  split
  · exact endsSolid_ofString rfl _
  · refine Fragment.endsSolid_join _ (by simpa using ne) ?_
    exact List.forall_mem_map.2 fun w _ => q.endsSolid_wordMatch columns foreign w

end Query

/-! ## Conjuncts -/

namespace QueryStep

/-- A condition on columns that is one more conjunct. -/
def IsConjunct : QueryStep → Prop
  | compare conjunct .. | within conjunct .. | withinQuery conjunct .. | between conjunct ..
  | search conjunct .. => conjunct = true
  | _ => False

/-- A range without bounds, and the exclusion of no values. -/
def isIdle : QueryStep → Bool
  | between _ _ none none => true
  | within true _ [] true => true
  | _ => false

variable (o : BuildOptions) (q : Query)

/-- What a conjunct does to a query, whatever the condition of the query is: it is refused, it
excludes nothing and leaves the query as it is, or it adds a fixed text with a solid end. -/
inductive Conjoins (s : QueryStep) : Prop
  | refused (e : Error) (active : s.isIdle = false)
      (h : ∀ c, s.apply o { q with condition := c } = .error e)
  | idle (idle : s.isIdle = true)
      (h : ∀ c, s.apply o { q with condition := c } = .ok { q with condition := c })
  | adds (a : Fragment) (active : s.isIdle = false) (solid : Query.EndsSolid a.text)
      (h : ∀ c, s.apply o { q with condition := c } =
        .ok (({ q with condition := c } : Query).addCondition true a))

theorem conjoins {s : QueryStep} (h : s.IsConjunct) : s.Conjoins o q := by
  cases s with
  | compare conjunct column v negated =>
    cases h
    exact .adds (q.comparison column v negated) rfl (q.endsSolid_comparison column v negated)
      fun _ => rfl
  | within conjunct column vs negated =>
    cases h
    match vs, negated with
    | [], true => exact .idle rfl fun _ => rfl
    | [], false => exact .refused _ rfl fun _ => rfl
    | [v], negated =>
      exact .adds (q.comparison column v negated) rfl (q.endsSolid_comparison column v negated)
        fun _ => rfl
    | v :: w :: vs, negated =>
      exact .adds (q.membership column (v :: w :: vs) negated) rfl
        (Query.endsSolid_ofString rfl _) fun _ => rfl
  | withinQuery conjunct column nested negated =>
    cases h
    cases built : nested.build o with
    | error e => exact .refused e rfl fun c => by rw [apply, built]; rfl
    | ok sub =>
      exact .adds (q.columnText column ++ Query.inText negated ++ sub.fragment ++ .ofString ")") rfl
        (Query.endsSolid_ofString rfl _)
        fun c => by rw [apply, built]; rfl
  | between conjunct column first last =>
    cases h
    match first, last with
    | none, none => exact .idle rfl fun _ => rfl
    | some d, last =>
      exact .adds (q.dayRange column (some d) last) rfl (q.endsSolid_dayRange column (by simp))
        fun _ => rfl
    | none, some d =>
      exact .adds (q.dayRange column none (some d)) rfl (q.endsSolid_dayRange column (by simp))
        fun _ => rfl
  | search conjunct phrase method columns foreign =>
    cases h
    by_cases blank : (words phrase.toList).isEmpty = true
    · exact .refused _ rfl fun _ => if_pos blank
    · by_cases none : (columns.isEmpty && foreign.isEmpty) = true
      · exact .refused _ rfl fun _ => (if_neg blank).trans (if_pos none)
      · exact .adds (q.searchText method columns foreign (words phrase.toList)) rfl
          (q.endsSolid_searchText method columns foreign fun same => blank (by rw [same]; rfl))
          fun _ => (if_neg blank).trans (if_neg none)
  | _ => cases h

/-! ## Sequences of conjuncts -/

/-- The condition that a step makes up on its own, on a query that has no condition; none if the
step cannot be taken. -/
def alone (s : QueryStep) : Fragment :=
  match s.apply o q with
  | .ok q' => q'.condition
  | .error _ => .empty

/-- The conditions that steps make up on their own, but for those that are empty. -/
def clauses (ss : List QueryStep) : List Fragment :=
  (ss.map (alone o q)).filter fun a => !a.isEmpty

theorem clauses_cons {s : QueryStep} (solid : (alone o q s).isEmpty = false)
    (ss : List QueryStep) : clauses o q (s :: ss) = alone o q s :: clauses o q ss := by
  rw [clauses, List.map_cons, List.filter_cons_of_pos (by simp [solid])]
  rfl

theorem clauses_cons_of_isEmpty {s : QueryStep} (none : (alone o q s).isEmpty = true)
    (ss : List QueryStep) : clauses o q (s :: ss) = clauses o q ss := by
  rw [clauses, List.map_cons, List.filter_cons_of_neg (by simp [none])]
  rfl

theorem clauses_append (ss ss' : List QueryStep) :
    clauses o q (ss ++ ss') = clauses o q ss ++ clauses o q ss' := by
  rw [clauses, List.map_append, List.filter_append]
  rfl

/-- Solid conditions and one more behind them. -/
theorem addCondition_join {as : List Fragment} (solid : ∀ a ∈ as, Query.EndsSolid a.text)
    (a : Fragment) :
    ({ q with condition := .join q.andText as } : Query).addCondition true a =
      { q with condition := .join q.andText (as ++ [a]) } := by
  cases as with
  | nil => rfl
  | cons b bs =>
    have ne := List.cons_ne_nil b bs
    have behind := (Fragment.endsSolid_join q.andText ne solid).needsAnd
    rw [Query.addCondition, Fragment.join_concat q.andText ne]
    simp only [behind, Bool.and_self, if_true]
    rfl

/-- A deletion may be sent once it has a condition. -/
theorem validate_join_iff {as : List Fragment} (solid : ∀ a ∈ as, a.isEmpty = false)
    (deletes : q.statement = .delete false) (named : isBlankText q.table = false) :
    ({ q with condition := .join q.andText as } : Query).validate = .ok () ↔ as ≠ [] := by
  rw [Query.validate, if_neg (by simp [named])]
  dsimp only
  rw [deletes, Fragment.isEmpty_join q.andText solid]
  cases as <;> simp

section

variable {o : BuildOptions} {q : Query} (fresh : q.condition = .empty) {s : QueryStep}
include fresh

theorem alone_of_apply {a : Fragment} (h : s.apply o q = .ok (q.addCondition true a)) :
    alone o q s = a := by
  rw [alone, h]
  simp only [Query.addCondition, fresh]
  rfl

/-- What a conjunct does to a query is what it makes up on its own. -/
theorem Conjoins.skips_or_adds (h : s.Conjoins o q) :
    (s.isIdle = true ∨ ∃ e, s.apply o q = .error e) ∧ alone o q s = .empty ∧
        (∀ c ss, applyAll o { q with condition := c } (s :: ss) =
          applyAll o { q with condition := c } ss) ∨
      s.isIdle = false ∧ (∃ q', s.apply o q = .ok q') ∧ Query.EndsSolid (alone o q s).text ∧
        ∀ c ss, applyAll o { q with condition := c } (s :: ss) =
          applyAll o (({ q with condition := c } : Query).addCondition true (alone o q s)) ss := by
  cases h with
  | refused e active h =>
    have own : s.apply o q = .error e := h q.condition
    refine .inl ⟨.inr ⟨e, own⟩, by rw [alone, own], fun c ss => ?_⟩
    rw [applyAll, h c]
  | idle idle h =>
    have own : s.apply o q = .ok q := h q.condition
    refine .inl ⟨.inl idle, by rw [alone, own]; exact fresh, fun c ss => ?_⟩
    rw [applyAll, h c]
  | adds a active solid h =>
    have own : s.apply o q = .ok (q.addCondition true a) := h q.condition
    have same := alone_of_apply fresh own
    refine .inr ⟨active, ⟨_, own⟩, same ▸ solid, fun c ss => ?_⟩
    rw [applyAll, h c, same]

/-- The condition after conjuncts is the conjunction of those that are not empty. -/
theorem applyAll_join {as : List Fragment} (solid : ∀ a ∈ as, Query.EndsSolid a.text)
    {steps : List QueryStep} (conjuncts : ∀ s ∈ steps, s.IsConjunct) :
    applyAll o { q with condition := .join q.andText as } steps =
      { q with condition := .join q.andText (as ++ clauses o q steps) } := by
  induction steps generalizing as with
  | nil => simp [applyAll, clauses]
  | cons s steps ih =>
    obtain ⟨first, rest⟩ := List.forall_mem_cons.1 conjuncts
    rcases (conjoins o q first).skips_or_adds fresh with ⟨-, none, skip⟩ | ⟨-, -, own, adds⟩
    · rw [skip, ih solid rest, clauses_cons_of_isEmpty o q (by rw [none]; rfl)]
    · have both := List.forall_mem_append.2 ⟨solid, List.forall_mem_singleton.2 own⟩
      rw [adds, addCondition_join q solid, ih both rest, List.append_assoc,
        clauses_cons o q own.isEmpty_eq]
      rfl

theorem applyAll_eq {steps : List QueryStep} (conjuncts : ∀ s ∈ steps, s.IsConjunct) :
    applyAll o q steps =
      { q with condition := .join q.andText (clauses o q steps) } := by
  have start : q = { q with condition := .join q.andText [] } := by
    rw [Fragment.join, ← fresh]
  exact (congrArg (fun r => applyAll o r steps) start).trans
    (applyAll_join fresh (fun a ha => (List.not_mem_nil ha).elim) conjuncts)

theorem alone_isEmpty_iff (h : s.IsConjunct) :
    (alone o q s).isEmpty = true ↔ s.isIdle = true ∨ ∃ e, s.apply o q = .error e := by
  rcases (conjoins o q h).skips_or_adds fresh with ⟨without, none, -⟩ | ⟨active, taken, solid, -⟩
  · rw [none]
    exact iff_of_true rfl without
  · obtain ⟨q', taken⟩ := taken
    refine iff_of_false ?_ ?_
    · simp [solid.isEmpty_eq]
    · simp [active, taken]

/-- Conjuncts that exclude nothing have no part in the condition. -/
theorem clauses_filter {steps : List QueryStep} (conjuncts : ∀ s ∈ steps, s.IsConjunct) :
    clauses o q (steps.filter fun s => !s.isIdle) = clauses o q steps := by
  rw [clauses, List.filter_map, List.filter_filter]
  refine (congrArg _ (List.filter_congr fun s hs => ?_)).trans List.filter_map.symm
  cases idle : s.isIdle with
  | false => simp
  | true => simp [(alone_isEmpty_iff fresh (conjuncts s hs)).2 (.inl idle)]

theorem clauses_ne_nil_iff {steps : List QueryStep} (conjuncts : ∀ s ∈ steps, s.IsConjunct) :
    clauses o q steps ≠ [] ↔
      ∃ s ∈ steps, s.isIdle = false ∧ ∃ r, s.apply o q = .ok r := by
  rw [ne_eq, clauses, List.filter_eq_nil_iff]
  simp only [List.forall_mem_map, Bool.not_eq_true', Bool.not_eq_false, not_forall]
  constructor
  · rintro ⟨s, hs, solid⟩
    have told := mt (alone_isEmpty_iff fresh (conjuncts s hs)).2 solid
    rw [not_or, Bool.not_eq_true] at told
    cases taken : s.apply o q with
    | error e => exact absurd ⟨e, taken⟩ told.2
    | ok r => exact ⟨s, hs, told.1, r, taken⟩
  · rintro ⟨s, hs, active, r, taken⟩
    refine ⟨s, hs, fun none => ?_⟩
    rcases (alone_isEmpty_iff fresh (conjuncts s hs)).1 none with idle | ⟨e, refused⟩
    · exact Bool.noConfusion (active.symm.trans idle)
    · cases taken.symm.trans refused

end

/-- A query without a condition has, after any conjuncts, the conjunction of what each of them makes
up on its own; conjuncts that are refused or exclude nothing leave no trace. A deletion may then be
sent if some conjunct was taken and excludes something. -/
theorem applyAll_conjuncts (o : BuildOptions) {q : Query} (fresh : q.condition = .empty)
    {steps : List QueryStep} (conjuncts : ∀ s ∈ steps, s.IsConjunct) :
    let q' := applyAll o q steps
    q' = { q with condition := q'.condition } ∧
      q'.conditionText =
        (q.options.separator ++ "AND ").intercalate ((clauses o q steps).map Fragment.string) ∧
      q'.condition.parameters = (clauses o q steps).flatMap Fragment.parameters ∧
      applyAll o q (steps.filter fun s => !s.isIdle) = q' ∧
      (∀ s ∈ steps, (alone o q s).isEmpty = true ↔
        s.isIdle = true ∨ ∃ e, s.apply o q = .error e) ∧
      (q.statement = .delete false → isBlankText q.table = false →
        (q'.validate = .ok () ↔ ∃ s ∈ steps, s.isIdle = false ∧ ∃ r, s.apply o q = .ok r)) := by
  intro q'
  have after : q' = { q with condition := .join q.andText (clauses o q steps) } :=
    applyAll_eq fresh conjuncts
  refine ⟨?_, ?_, ?_, ?_, fun s hs => alone_isEmpty_iff fresh (conjuncts s hs),
    fun deletes named => ?_⟩
  · rw [after]
  · rw [after]
    refine (Fragment.string_join q.andText _).trans ?_
    rw [Query.andText, Query.separator, Fragment.string_append, Fragment.string_ofString,
      Fragment.string_ofString]
  · rw [after]
    exact Fragment.parameters_join rfl _
  · rw [after, applyAll_eq fresh fun s hs => conjuncts s (List.mem_of_mem_filter hs),
      clauses_filter fresh conjuncts]
  · have solid (a : Fragment) (ha : a ∈ clauses o q steps) : a.isEmpty = false := by
      simpa using List.of_mem_filter ha
    rw [after, validate_join_iff q solid deletes named, clauses_ne_nil_iff fresh conjuncts]

/-- Conditions of a deletion, two of which exclude nothing and one of which is refused. -/
def deletionSteps : List QueryStep :=
  [.between true "d" none none, .compare true "a" (.int 1) false, .within true "b" [] true,
    .search true " " .allWords ["c"] [], .search true "x y" .anyWord ["c"] []]

theorem applyAll_deletionSteps :
    let q := applyAll {} (.delete "t" {}) deletionSteps
    q.conditionText = "a=1 AND ((c LIKE ?) OR (c LIKE ?))" ∧
      q.condition.parameters = [.text "%x%", .text "%y%"] ∧ q.validate = .ok () := by
  have conjuncts : ∀ s ∈ deletionSteps, s.IsConjunct := by simp [deletionSteps, IsConjunct]
  obtain ⟨-, text, parameters, -, -, sent⟩ :=
    applyAll_conjuncts {} (q := .delete "t" {}) rfl conjuncts
  refine ⟨text.trans ?_, parameters.trans ?_, (sent rfl rfl).2 ?_⟩
  · decide +kernel
  · rfl
  · exact ⟨_, List.mem_of_mem_tail List.mem_cons_self, rfl, _, rfl⟩

end QueryStep

end DataMapper
