import DataMapper.Proofs.Query.Conjunctions
import DataMapper.Proofs.Sql.Formulas
import DataMapper.Proofs.Text.Patterns

/-!
# What a search means

The condition that a phrase makes up is a formula over one comparison for each word and column. It
holds if each word, or some word, is found in one of the columns, and it is closed in itself: next
to other conditions it is one operand.

## Main definitions

* `Fragment.spell` — the text of tokens.
* `Query.wordAtoms` — the comparisons of a word with the columns.
* `Query.searchTokens` — the tokens of the condition.

## Main statements

* `Query.search_means` — how the condition is read, alone and among others.
-/

namespace DataMapper

open Sql Text

/-! ## Tokens -/

def Fragment.ofToken : Token Fragment → Fragment
  | .operand a => a
  | .and separator => .ofString separator ++ .ofString "AND "
  | .or => .ofString " OR "
  | .opening => .ofString "("
  | .closing => .ofString ")"

namespace Fragment

/-- The text of tokens. -/
def spell : List (Token Fragment) → Fragment
  | [] => empty
  | t :: ts => ofToken t ++ spell ts

theorem spell_append (ts us : List (Token Fragment)) :
    spell (ts ++ us) = spell ts ++ spell us := by
  induction ts with
  | nil => rfl
  | cons t ts ih => rw [List.cons_append, spell, spell, ih, append_assoc]

theorem spell_operand (a : Fragment) : spell [.operand a] = a := append_empty a

theorem map_spell_operands (as : List Fragment) :
    (as.map fun a => [Token.operand a]).map spell = as := by
  rw [List.map_map]
  exact (List.map_congr_left fun a _ => spell_operand a).trans (List.map_id' as)

theorem spell_group (ts : List (Token Fragment)) :
    spell (.opening :: ts ++ [.closing]) = .ofString "(" ++ spell ts ++ .ofString ")" := by
  rw [List.cons_append, spell, spell_append, spell, spell, append_empty, ← append_assoc]
  rfl

theorem spell_chain (t : Token Fragment) (tss : List (List (Token Fragment))) :
    spell (chain t tss) = join (ofToken t) (tss.map spell) := by
  induction tss with
  | nil => rfl
  | cons ts tss ih =>
    cases tss with
    | nil => rfl
    | cons =>
      rw [chain_cons t ts (by simp), List.map_cons, join_cons _ _ (by simp), spell_append, spell,
        ih, append_assoc]

end Fragment

namespace Sql

variable {β : Type}

/-- The operands among tokens. -/
def operands (ts : List (Token β)) : List β :=
  ts.filterMap fun
    | .operand b => some b
    | _ => none

theorem operands_group (ts : List (Token β)) :
    operands (.opening :: ts ++ [.closing]) = operands ts := by
  simp [operands]

theorem operands_chain (c : Connective) (tss : List (List (Token β))) :
    operands (chain c.token tss) = tss.flatMap operands := by
  induction tss with
  | nil => rfl
  | cons ts tss ih =>
    cases tss with
    | nil => simp [chain]
    | cons =>
      rw [chain_cons c.token ts (by simp), List.flatMap_cons, ← ih]
      cases c <;> simp [operands, Connective.token]

end Sql

/-! ## The condition -/

/-- How the words of a phrase are joined. -/
def SearchMethod.connective : SearchMethod → Connective
  | allWords => .and " "
  | anyWord => .or

namespace Query

variable (q : Query) (columns : List String) (foreign : List ForeignColumn)

/-- The comparisons of the columns with the pattern of a word. -/
def wordAtoms (w : List Char) : List Fragment :=
  let pattern := String.ofList ('%' :: escapeLike w ++ ['%'])
  columns.map (fun c => q.columnText c ++ q.likeText pattern) ++
    foreign.map (q.foreignMatch pattern)

def wordTokens (w : List Char) : List (Token Fragment) :=
  .opening :: chain .or ((q.wordAtoms columns foreign w).map fun a => [.operand a]) ++ [.closing]

def searchTokens (method : SearchMethod) (ws : List (List Char)) : List (Token Fragment) :=
  let all := chain method.connective.token (ws.map (q.wordTokens columns foreign))
  if 1 < ws.length then .opening :: all ++ [.closing] else all

theorem spell_wordTokens {cs w : List Char} (h : w ∈ words cs) :
    Fragment.spell (q.wordTokens columns foreign w) = q.wordMatch columns foreign w := by
  rw [wordTokens, Fragment.spell_group, Fragment.spell_chain, Fragment.map_spell_operands,
    wordMatch, likePattern_of_mem_words h]
  rfl

theorem spell_searchTokens (method : SearchMethod) (cs : List Char) :
    Fragment.spell (q.searchTokens columns foreign method (words cs)) =
      q.searchText method columns foreign (words cs) := by
  have all (t : Token Fragment) :
      Fragment.spell (chain t ((words cs).map (q.wordTokens columns foreign))) =
        Fragment.join (.ofToken t) ((words cs).map (q.wordMatch columns foreign)) := by
    rw [Fragment.spell_chain, List.map_map]
    exact congrArg _ (List.map_congr_left fun w hw => q.spell_wordTokens columns foreign hw)
  cases method with
  | allWords | anyWord =>
    unfold searchTokens searchText
    dsimp only
    split
    · rw [Fragment.spell_group, all]
      rfl
    · rw [all]
      rfl

theorem operands_searchTokens (method : SearchMethod) (ws : List (List Char)) :
    operands (q.searchTokens columns foreign method ws) =
      ws.flatMap (q.wordAtoms columns foreign) := by
  have word (w : List Char) :
      operands (q.wordTokens columns foreign w) = q.wordAtoms columns foreign w := by
    rw [wordTokens, operands_group]
    refine (operands_chain .or _).trans ?_
    rw [List.flatMap_map]
    exact List.flatMap_singleton' _
  have all : operands (chain method.connective.token (ws.map (q.wordTokens columns foreign))) =
      ws.flatMap (q.wordAtoms columns foreign) := by
    rw [operands_chain, List.flatMap_map]
    exact congrArg (List.flatMap · ws) (funext word)
  unfold searchTokens
  dsimp only
  split
  · rw [operands_group, all]
  · exact all

/-! ## How it is read -/

theorem means_wordTokens (w : List Char) (some : ¬ (columns = [] ∧ foreign = [])) :
    Formula.Means .factor ((q.wordTokens columns foreign w).map (.map .atom)) fun v =>
      ∃ a ∈ q.wordAtoms columns foreign w, v a := by
  have ne : q.wordAtoms columns foreign w ≠ [] := by simpa [wordAtoms] using some
  have reads := Formula.means_chain .or ne fun a _ => Formula.means_operand a
  rw [wordTokens, List.map_append, List.map_cons, map_chain, List.map_map]
  exact reads.disjunction.group

theorem means_searchTokens (method : SearchMethod) {ws : List (List Char)} (ne : ws ≠ [])
    (some : ¬ (columns = [] ∧ foreign = [])) :
    Formula.Means .factor ((q.searchTokens columns foreign method ws).map (.map .atom)) fun v =>
      method.connective.Combines ws fun w => ∃ a ∈ q.wordAtoms columns foreign w, v a := by
  unfold searchTokens
  dsimp only
  split
  · have reads := Formula.means_chain method.connective ne fun w _ =>
      q.means_wordTokens columns foreign w some
    rw [List.map_append, List.map_cons, map_chain, List.map_map, Connective.map_token]
    exact reads.disjunction.group
  · next single =>
    obtain ⟨w, rfl⟩ := List.length_eq_one_iff.1
      (Nat.le_antisymm (Nat.not_lt.1 single) (List.length_pos_iff.2 ne))
    simp only [Connective.combines_singleton]
    exact q.means_wordTokens columns foreign w some

end Query

/-! ## Among other conditions -/

/-- The formula is the only reading of the tokens. -/
def Sql.Formula.IsReadingOf (f : Formula Fragment) (ts : List (Token Fragment)) : Prop :=
  ∀ g, Formula.Reads .disjunction (ts.map (.map .atom)) g ↔ g = f

theorem Sql.Formula.isReadingOf {f : Formula Fragment} {ts : List (Token Fragment)}
    (h : Reads .disjunction (ts.map (.map .atom)) f) : f.IsReadingOf ts :=
  fun _ => ⟨fun h' => h'.unique h, fun same => same ▸ h⟩

/-- The tokens of a conjunction: those of a condition among others that are taken as they are. -/
def Sql.among (separator : String) (as : List Fragment) (ts : List (Token Fragment))
    (bs : List Fragment) : List (Token Fragment) :=
  chain (.and separator)
    (as.map (fun a => [.operand a]) ++ ts :: bs.map fun b => [.operand b])

theorem Fragment.spell_among (separator : String) (as : List Fragment)
    (ts : List (Token Fragment)) (bs : List Fragment) :
    spell (among separator as ts bs) =
      join (.ofString separator ++ .ofString "AND ") (as ++ spell ts :: bs) := by
  rw [among, spell_chain, List.map_append, List.map_cons, map_spell_operands, map_spell_operands]
  rfl

theorem Sql.Formula.means_among (separator : String) (as : List Fragment)
    {ts : List (Token Fragment)} {f : Formula Fragment}
    (h : Reads .factor (ts.map (.map .atom)) f) (bs : List Fragment) :
    Means .disjunction ((among separator as ts bs).map (.map .atom)) fun v =>
      (∀ a ∈ as, v a) ∧ f.Holds v ∧ ∀ b ∈ bs, v b := by
  -- the members are the other conditions and, in the place of `none`, the one at hand
  let tokens (i : Option Fragment) : List (Token (Formula Fragment)) :=
    i.elim (ts.map (.map .atom)) fun a => [.operand (.atom a)]
  let p (i : Option Fragment) (v : Fragment → Prop) : Prop := i.elim (f.Holds v) v
  have each (i : Option Fragment) : Means .factor (tokens i) (p i) := by
    cases i with
    | none => exact ⟨f, h, fun _ => Iff.rfl⟩
    | some a => exact means_operand a
  have ne : as.map some ++ none :: bs.map some ≠ [] := by simp
  obtain ⟨g, reads, holds⟩ := means_chain (.and separator) ne fun i _ => each i
  refine ⟨g, .conjunction ?_, fun v => (holds v).trans ?_⟩
  · rw [among, map_chain]
    simpa [tokens, Token.map, Connective.token, Connective.rank, Function.comp_def] using reads
  · change (∀ i ∈ as.map some ++ none :: bs.map some, p i v) ↔ _
    rw [List.forall_mem_append, List.forall_mem_cons, List.forall_mem_map, List.forall_mem_map]
    exact Iff.rfl

/-! ## Searches -/

namespace QueryStep

/-- A step that is refused leaves the query as it was. -/
theorem applyAll_refused {o : BuildOptions} {q : Query} {s : QueryStep} {e : Error}
    (h : s.apply o q = .error e) (ss : List QueryStep) :
    applyAll o q (s :: ss) = applyAll o q ss := by
  rw [applyAll, h]

end QueryStep

namespace Query

variable (q : Query) (phrase : String) (method : SearchMethod) (columns : List String)
  (foreign : List ForeignColumn)

theorem isBlankText_iff : isBlankText phrase = true ↔ (words phrase.toList).isEmpty = true := by
  rw [List.isEmpty_iff, words_eq_nil_iff, isBlankText]

theorem search_refused {conjunct : Bool}
    (h : isBlankText phrase = true ∨ columns = [] ∧ foreign = []) :
    q.search conjunct phrase method columns foreign =
      .error (.validation (if isBlankText phrase then .emptyPhrase else .noSearchColumns)) := by
  by_cases blank : isBlankText phrase = true
  · rw [if_pos blank]
    exact if_pos ((isBlankText_iff phrase).1 blank)
  · have none : (columns.isEmpty && foreign.isEmpty) = true := by
      simpa using h.resolve_left blank
    rw [if_neg blank]
    exact (if_neg (mt (isBlankText_iff phrase).2 blank)).trans (if_pos none)

theorem search_eq {conjunct : Bool} (said : isBlankText phrase = false)
    (some : ¬ (columns = [] ∧ foreign = [])) :
    q.search conjunct phrase method columns foreign =
      .ok (q.addCondition conjunct
        (.spell (q.searchTokens columns foreign method (words phrase.toList)))) := by
  rw [spell_searchTokens]
  refine (if_neg (mt (isBlankText_iff phrase).2 (by simp [said]))).trans (if_neg ?_)
  simpa using some

theorem endsSolid_searchTokens (ne : words phrase.toList ≠ []) :
    EndsSolid (Fragment.spell
      (q.searchTokens columns foreign method (words phrase.toList))).text := by
  rw [q.spell_searchTokens]
  exact q.endsSolid_searchText method columns foreign ne

/-- Behind a condition with a solid end the next conjunct is set off by `AND`. -/
theorem addCondition_behind {a : Fragment} (solid : EndsSolid a.text) (conjunct : Bool)
    (b : Fragment) :
    ((q.addCondition conjunct a).addCondition true b).condition =
      (q.addCondition conjunct a).condition ++ q.andText ++ b := by
  have linked : needsAnd (q.addCondition conjunct a).condition.text = true :=
    (solid.append _).needsAnd
  rw [addCondition, linked]
  rfl

/-- A phrase is sought in columns by a condition with one comparison for each word and column, in
their order. Read as a formula, in the only way that there is, it holds if each word, or some word,
is found in some column. Among other tokens it is read as one operand, a conjunct behind it is set
off by `AND`, and among other conjuncts it is one of them. Without words or columns there is no such
condition, and the query is left as it was. -/
theorem search_means (conjunct : Bool) :
    let s : QueryStep := .search conjunct phrase method columns foreign
    (isBlankText phrase = true ∨ columns = [] ∧ foreign = [] → ∀ o,
      s.apply o q = .error (.validation
          (if isBlankText phrase then .emptyPhrase else .noSearchColumns)) ∧
        ∀ ss, QueryStep.applyAll o q (s :: ss) = QueryStep.applyAll o q ss) ∧
    (isBlankText phrase = false → ¬ (columns = [] ∧ foreign = []) →
      let ws := words phrase.toList
      ∃ (ts : List (Token Fragment)) (f : Formula Fragment),
        (∀ o, s.apply o q = .ok (q.addCondition conjunct (.spell ts))) ∧
        operands ts = ws.flatMap (q.wordAtoms columns foreign) ∧
        f.IsReadingOf ts ∧
        (∀ v, f.Holds v ↔
          match method with
          | .allWords => ∀ w ∈ ws, ∃ a ∈ q.wordAtoms columns foreign w, v a
          | .anyWord => ∃ w ∈ ws, ∃ a ∈ q.wordAtoms columns foreign w, v a) ∧
        (∀ before behind g,
          Formula.Reads .disjunction (before ++ ts.map (.map .atom) ++ behind) g ↔
            Formula.Reads .disjunction (before ++ .operand f :: behind) g) ∧
        (∀ b, ((q.addCondition conjunct (.spell ts)).addCondition true b).condition =
          (q.addCondition conjunct (.spell ts)).condition ++ q.andText ++ b) ∧
        (conjunct = true → q.condition = .empty → ∀ o pre post,
          (∀ t ∈ pre ++ post, QueryStep.IsConjunct t) →
          let before := QueryStep.clauses o q pre
          let behind := QueryStep.clauses o q post
          let us := among q.options.separator before ts behind
          (QueryStep.applyAll o q (pre ++ s :: post)).condition = .spell us ∧
            ∃ g : Formula Fragment, g.IsReadingOf us ∧ ∀ v, g.Holds v ↔
              (∀ a ∈ before, v a) ∧ f.Holds v ∧ ∀ a ∈ behind, v a)) := by
  intro s
  refine ⟨fun refused o => ?_, fun said some => ?_⟩
  · have h : s.apply o q = .error _ := q.search_refused phrase method columns foreign refused
    exact ⟨h, QueryStep.applyAll_refused h⟩
  intro ws
  have ne : ws ≠ [] := by
    intro none
    rw [(isBlankText_iff phrase).2 (List.isEmpty_iff.2 none)] at said
    cases said
  have taken (o : BuildOptions) : s.apply o q =
      .ok (q.addCondition conjunct (.spell (q.searchTokens columns foreign method ws))) :=
    q.search_eq phrase method columns foreign said some
  obtain ⟨f, reads, holds⟩ := q.means_searchTokens columns foreign method ne some
  have solid := q.endsSolid_searchTokens phrase method columns foreign ne
  refine ⟨_, f, taken, q.operands_searchTokens columns foreign method ws,
    Formula.isReadingOf (.conjunction (.factor reads)), ?_, reads.replace_iff,
    q.addCondition_behind solid conjunct, ?_⟩
  · cases method <;> exact holds
  · rintro rfl fresh o pre post conjuncts before behind us
    have own := QueryStep.alone_of_apply fresh (taken o)
    have steps : ∀ t ∈ pre ++ s :: post, QueryStep.IsConjunct t := by
      obtain ⟨front, rest⟩ := List.forall_mem_append.1 conjuncts
      exact List.forall_mem_append.2 ⟨front, List.forall_mem_cons.2 ⟨rfl, rest⟩⟩
    refine ⟨?_, ?_⟩
    · rw [QueryStep.applyAll_eq fresh steps, Fragment.spell_among, QueryStep.clauses_append,
        QueryStep.clauses_cons o q (by rw [own, solid.isEmpty_eq]), own]
      rfl
    · obtain ⟨g, reading, joined⟩ :=
        Formula.means_among q.options.separator before reads behind
      exact ⟨g, Formula.isReadingOf reading, joined⟩

/-- A book's author. -/
def author : ForeignColumn := ⟨"authors", "name", "author_id", "id"⟩

/-- Either of two words is sought in a title or an author's name, behind another condition; blanks
are not sought at all. -/
theorem search_means_two_words :
    let q := Query.select "books" {}
    (∀ ss, QueryStep.applyAll {} q (.search true " " .anyWord ["title"] [] :: ss) =
        QueryStep.applyAll {} q ss) ∧
      ∃ (us : List (Token Fragment)) (g : Formula Fragment),
        (QueryStep.applyAll {} q [.compare true "year" (.int 7) false,
          .search true "new 5%" .anyWord ["title"] [author]]).condition = .spell us ∧
        g.IsReadingOf us ∧
        ∀ v, g.Holds v ↔ v ⟨"year=7".toList, []⟩ ∧
          ∃ w ∈ ["new".toList, "5%".toList], ∃ a ∈ q.wordAtoms ["title"] [author] w, v a := by
  have blank := (search_means (.select "books" {}) " " .anyWord ["title"] [] true).1
  have found := (search_means (.select "books" {}) "new 5%" .anyWord ["title"] [author] true).2
  obtain ⟨ts, f, -, -, -, holds, -, -, among⟩ := found (by decide) (by simp)
  have conjuncts : ∀ t ∈ [QueryStep.compare true "year" (.int 7) false] ++ [],
      QueryStep.IsConjunct t := by simp [QueryStep.IsConjunct]
  obtain ⟨condition, g, reading, joined⟩ :=
    among rfl rfl {} [.compare true "year" (.int 7) false] [] conjuncts
  refine ⟨(blank (.inl (by decide)) {}).2, _, g, condition, reading, fun v => ?_⟩
  have clause : QueryStep.clauses {} (.select "books" {}) [.compare true "year" (.int 7) false] =
      [⟨"year=7".toList, []⟩] := rfl
  have two : words "new 5%".toList = ["new".toList, "5%".toList] := rfl
  rw [joined v, holds v, clause, two, List.forall_mem_singleton]
  exact and_congr_right fun _ => and_iff_left fun a ha => (List.not_mem_nil ha).elim

end Query

end DataMapper
