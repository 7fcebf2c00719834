import DataMapper.Proofs.Query.Expansion
import DataMapper.Proofs.Query.Fragments
import DataMapper.Proofs.Query.RawText

/-!
# Placeholders of whole statements

Raw text is checked by itself but read as a part of its statement. Its question marks are those of
its parameters wherever it stands if the scan of it, once it is filled, ends in live text with
nothing pending. Text that ends otherwise takes away the placeholder of some text behind it.

## Main definitions

* `Fragment.Settled` — raw text that leaves the scan as it was.
* `QueryStep.IsChecked` — a step whose raw text, if it has any, is checked and settled.
* `Query.Matches` — as many placeholders as parameters, each in the place of its value.
-/

namespace DataMapper

open Sql Text

/-! ## Bound values -/

namespace BuildOptions

/-- Every value becomes a parameter, but for null and the time of the database. -/
def Binds (o : BuildOptions) : Prop := o.parameterized = true ∧ o.inlineLiterals = false

instance (o : BuildOptions) : Decidable o.Binds := inferInstanceAs (Decidable (_ ∧ _))

def binding (d : Dialect) : BuildOptions :=
  { parameterized := true, inlineLiterals := false, dialect := d }

theorem binds_binding (d : Dialect) : (binding d).Binds := ⟨rfl, rfl⟩

theorem Binds.eq_binding {o : BuildOptions} (h : o.Binds) :
    o = { binding o.dialect with separator := o.separator } := by
  obtain ⟨parameterized, inlineLiterals, separator, dialect⟩ := o
  obtain ⟨rfl, rfl⟩ := h
  rfl

end BuildOptions

namespace Fragment

/-- A value is a placeholder, or it is written out whatever the options are. -/
theorem ofValue_of_binds {o : BuildOptions} (h : o.Binds) (v : Value) :
    (ofValue o v = ⟨['?'], [v]⟩ ∧ ofValue o.inlined v = ofText (literalChars v)) ∨
      ∃ cs, ofValue o v = ofText cs ∧ ofValue o.inlined v = ofText cs ∧ '?' ∉ cs := by
  cases v with
  | null => exact .inr ⟨_, rfl, rfl, by decide⟩
  | serverNow =>
    refine .inr ⟨_, rfl, rfl, ?_⟩
    cases o.dialect <;> decide
  | bool | int | float | decimal | char | text | bytes | date | time | timestamp | timestampUtc
  | uuid | json | enumName =>
    exact .inl ⟨by simp [ofValue, h.1, h.2], by simp [ofValue, BuildOptions.inlined, h.2]⟩

theorem parameters_fill_inlined (o : BuildOptions) (m : Mode) (vs : List Value)
    (cs : List Char) : (fill o.inlined m vs cs).parameters = [] := by
  induction cs generalizing m vs with
  | nil => rfl
  | cons c cs ih =>
    rcases next_cases m vs c with copied | ⟨mark, v, ws, rfl⟩
    · rw [fill_copy _ cs copied, parameters_append, ih]
      rfl
    · rw [fill_value _ cs mark, parameters_append, ih, (expands_ofValue o v).rest]
      rfl

theorem ofValue_ne_nil (o : BuildOptions) (v : Value) : (ofValue o v).text ≠ [] := by
  rcases ofValue_cases o v with marked | ⟨cs, same, written⟩
  · simp [marked]
  · rw [same]
    cases written with
    | inert ne => exact ne
    | literal shape => exact shape.endsSolid.ne_nil

/-- Text does not vanish when it is filled. -/
theorem fill_ne_nil (o : BuildOptions) (m : Mode) (vs : List Value) {cs : List Char}
    (ne : cs ≠ []) : (fill o m vs cs).text ≠ [] := by
  obtain ⟨c, cs, rfl⟩ := List.exists_cons_of_ne_nil ne
  rcases next_cases m vs c with copied | ⟨mark, v, ws, rfl⟩
  · rw [fill_copy o cs copied]
    simp [ofText]
  · rw [fill_value o cs mark]
    simp [ofValue_ne_nil]

/-! ## Found marks -/

theorem le_of_mem_marks {o : BuildOptions} {m : Mode} {offset : Nat} {vs : List Value}
    {cs : List Char} {i : Nat} (h : i ∈ (marks o m offset vs cs).map Prod.fst) : offset ≤ i := by
  induction cs generalizing m offset vs with
  | nil => cases h
  | cons c cs ih =>
    rcases next_cases m vs c with copied | ⟨mark, v, ws, rfl⟩
    · rw [marks_copy o cs copied] at h
      exact Nat.le_of_add_right_le (ih h)
    · rw [marks_value o cs mark, List.map_append, List.mem_append] at h
      rcases h with here | later
      · simp only [List.map_map, List.mem_map, Function.comp_apply] at here
        obtain ⟨-, -, rfl⟩ := here
        exact Nat.le_refl _
      · exact Nat.le_of_add_right_le (ih later)

theorem substitute_mark {m : Mode} {c : Char} (h : isPlaceholder m c = true) (t : List Char)
    (ts : List (List Char)) (cs : List Char) :
    substitute m (t :: ts) (c :: cs) = t ++ substitute (m.step c) ts cs := by
  simp [substitute, h]

/-- A literal does not begin with a question mark. -/
theorem head?_literalChars_ne (v : Value) (cs ds : List Char) :
    literalChars v ++ cs ≠ '?' :: ds := by
  intro same
  have first : (literalChars v ++ cs).head? = some '?' := by rw [same]; rfl
  have shape := literalChars_shape v
  generalize literalChars v = written at shape first
  cases shape with
  | word word =>
    obtain ⟨ne, all⟩ := word
    rw [List.head?_append_of_ne_nil _ ne] at first
    exact absurd (all _ (List.mem_of_mem_head? first)) (by decide)
  | negative | quoted | bytes => simp [quoted] at first

/-- The scan finds the marks that were written if and only if there are as many placeholders as
parameters and their literals, put in the place of the placeholders, stand where the values would
have been written. -/
theorem found_iff {o : BuildOptions} (h : o.Binds) (m k : Mode) (offset : Nat) (vs : List Value)
    (cs : List Char) :
    offsetsFrom k offset (fill o m vs cs).text = (marks o m offset vs cs).map Prod.fst ↔
      placeholderCount k (fill o m vs cs).text = (fill o m vs cs).parameters.length ∧
        substitute k ((fill o m vs cs).parameters.map literalChars) (fill o m vs cs).text =
          (fill o.inlined m vs cs).text := by
  induction cs generalizing m k offset vs with
  | nil => simp [fill, empty, marks, offsetsFrom, placeholderCount, substitute]
  | cons c cs ih =>
    have later : ¬ offset + Char.utf8Size '?' ≤ offset := by
      have size : 0 < Char.utf8Size '?' := Char.utf8Size_pos _
      omega
    rcases next_cases m vs c with copied | ⟨mark, v, ws, rfl⟩
    · rw [fill_copy o cs copied, fill_copy o.inlined cs copied, marks_copy o cs copied]
      have rest := ih (m.step c) (k.step c) (offset + c.utf8Size) vs
      cases hc : isPlaceholder k c with
      | false => simpa [ofText, offsetsFrom, placeholderCount, substitute, hc] using rest
      | true =>
        -- a question mark of the text itself is found
        obtain rfl : c = '?' := by
          simp only [isPlaceholder, Bool.and_eq_true, beq_iff_eq] at hc
          exact hc.2
        refine iff_of_false ?_ ?_
        · intro found
          have mem : offset ∈ (marks o (m.step '?') (offset + Char.utf8Size '?') vs cs).map
              Prod.fst := by
            rw [← found]
            simp [ofText, offsetsFrom, hc]
          exact absurd (le_of_mem_marks mem) later
        · rintro ⟨count, filled⟩
          simp only [ofText, text_append, parameters_append, List.nil_append,
            List.singleton_append, placeholderCount, hc, ↓reduceIte] at count filled
          cases params : (fill o (m.step '?') vs cs).parameters with
          | nil => simp [params] at count
          | cons v ws =>
            rw [params, List.map_cons, substitute_mark hc] at filled
            exact head?_literalChars_ne _ _ _ filled
    · rw [fill_value o cs mark, fill_value o.inlined cs mark, marks_value o cs mark]
      rcases ofValue_of_binds h v with ⟨marked, literal⟩ | ⟨text, written, same, none⟩
      · rw [marked, literal]
        have rest := ih (m.step c) (k.step '?') (offset + byteLength ['?']) ws
        cases hc : isPlaceholder k '?' with
        | true =>
          simpa [ofText, offsetsFrom, placeholderCount, substitute, hc] using rest
        | false =>
          -- the mark that was written is not found
          refine iff_of_false ?_ ?_
          · intro found
            have mem : offset ∈ offsetsFrom (k.step '?') (offset + Char.utf8Size '?')
                (fill o (m.step c) ws cs).text := by
              have all : offset ∈ offsetsFrom k offset ('?' :: (fill o (m.step c) ws cs).text) :=
                found ▸ by simp
              simpa [offsetsFrom, hc] using all
            exact absurd (le_of_mem_offsetsFrom mem) later
          · rintro ⟨-, filled⟩
            simp only [text_append, parameters_append, List.singleton_append, List.map_cons,
              substitute, hc] at filled
            exact head?_literalChars_ne _ _ _ filled.symm
      · rw [written, same]
        have count : placeholderCount k text = 0 := by
          rw [← length_offsetsFrom k 0, offsetsFrom_of_notMem none]
          rfl
        have rest := ih (m.step c) (k.run text) (offset + byteLength text) ws
        have skip := @substitute_append_of_placeholderCount_eq_zero k text count
        simpa [ofText, offsetsFrom_append, offsetsFrom_of_notMem none, placeholderCount_append,
          count, skip] using rest

/-! ## Settled text -/

/-- Raw text that is filled by values leaves the scan in live text with nothing pending, and what
the scan finds in it are the marks of the parameters. -/
def SettledUnder (o : BuildOptions) (values : List Value) (text : List Char) : Prop :=
  offsetsFrom .plain 0 (fill o .plain values text).text =
      (marks o .plain 0 values text).map Prod.fst ∧
    Mode.plain.run (fill o .plain values text).text = .plain

instance (o : BuildOptions) (values : List Value) (text : List Char) :
    Decidable (SettledUnder o values text) := inferInstanceAs (Decidable (_ ∧ _))

/-- Settled where values are bound, whatever the time of the database is called. -/
def Settled (values : List Value) (text : String) : Prop :=
  ∀ d, SettledUnder (.binding d) values text.toList

section

variable (o : BuildOptions) (separator : String)

theorem ofValue_separator (v : Value) :
    ofValue { o with separator := separator } v = ofValue o v := by
  cases v <;> rfl

theorem fill_separator (m : Mode) (vs : List Value) (cs : List Char) :
    fill { o with separator := separator } m vs cs = fill o m vs cs := by
  induction cs generalizing m vs with
  | nil => rfl
  | cons c cs ih =>
    rcases next_cases m vs c with copied | ⟨mark, v, ws, rfl⟩
    · rw [fill_copy _ cs copied, fill_copy _ cs copied, ih]
    · rw [fill_value _ cs mark, fill_value _ cs mark, ih, ofValue_separator]

theorem marks_separator (m : Mode) (offset : Nat) (vs : List Value) (cs : List Char) :
    marks { o with separator := separator } m offset vs cs = marks o m offset vs cs := by
  induction cs generalizing m offset vs with
  | nil => rfl
  | cons c cs ih =>
    rcases next_cases m vs c with copied | ⟨mark, v, ws, rfl⟩
    · rw [marks_copy _ cs copied, marks_copy _ cs copied, ih]
    · rw [marks_value _ cs mark, marks_value _ cs mark, ih, ofValue_separator]

end

theorem Settled.under {o : BuildOptions} (h : o.Binds) {values : List Value} {text : String}
    (settled : Settled values text) : SettledUnder o values text.toList := by
  unfold SettledUnder
  rw [h.eq_binding, fill_separator, marks_separator]
  exact settled o.dialect

/-- Settled text becomes the text with the values written out when its placeholders are filled. -/
theorem Settled.expands {o : BuildOptions} (h : o.Binds) {values : List Value} {text : String}
    (settled : Settled values text) :
    (fill o .plain values text.toList).Expands (fill o.inlined .plain values text.toList) := by
  obtain ⟨found, run⟩ := settled.under h
  obtain ⟨count, filled⟩ := (found_iff h .plain .plain 0 values text.toList).1 found
  exact ⟨run, count, filled, parameters_fill_inlined o .plain values text.toList⟩

/-- Raw text is filled, or there are too few or too many values for it whatever the options are. -/
theorem ofTemplate_cases (text : String) (values : List Value) :
    (placeholderCount .plain text.toList = values.length ∧
        ∀ o, ofTemplate o text values = .ok (fill o .plain values text.toList)) ∨
      placeholderCount .plain text.toList ≠ values.length ∧
        ∃ e, ∀ o, ofTemplate o text values = .error e := by
  by_cases count : placeholderCount .plain text.toList = values.length
  · exact .inl ⟨count, fun o => if_pos count⟩
  · exact .inr ⟨count, _, fun o => if_neg count⟩

end Fragment

/-! ## Checked steps -/

/-- If the check of raw text lets it pass, then it is settled. -/
def Fragment.Composable (values : List Value) (text : String) : Prop :=
  placeholderCount .plain text.toList = values.length → Fragment.Settled values text

mutual

/-- A step whose raw text is checked and settled, if it has any; names and separators are inert, and
values stay bound. -/
def QueryStep.IsChecked : QueryStep → Prop
  | .rawWith _ text values => Fragment.Composable values text
  | .joinRaw text values => Fragment.Composable values text
  | .assignRaw text values => Fragment.Composable values text
  | .parameterized on => on = true
  | .inlineLiterals on => on = false
  | .withinQuery _ column nested _ => isInertText column = true ∧ nested.IsChecked
  | s => s.isStructured = true

def QueryStep.AllChecked : List QueryStep → Prop
  | [] => True
  | s :: ss => s.IsChecked ∧ QueryStep.AllChecked ss

def QueryPlan.IsChecked : QueryPlan → Prop
  | .plan _ target options steps =>
    target.isInert = true ∧ (∀ o ∈ options, isInertText o.separator = true ∧ o.Binds) ∧
      QueryStep.AllChecked steps

end

namespace Query

/-- Checked raw text in both queries, or the same refusal. -/
theorem Expands.template {q r : Query} (h : q.Expands r) (binds : q.options.Binds)
    {values : List Value} {text : String} (composable : Fragment.Composable values text)
    {f g : Fragment → Query} (each : ∀ {a b : Fragment}, a.Expands b → (f a).Expands (g b)) :
    BothExpand ((Fragment.ofTemplate q.options text values).map f)
      ((Fragment.ofTemplate r.options text values).map g) := by
  rcases Fragment.ofTemplate_cases text values with ⟨count, filled⟩ | ⟨-, e, refused⟩
  · rw [filled, filled, h.options]
    exact .ok (each ((composable count).expands binds))
  · rw [refused, refused]
    exact .error e

theorem binds_within {q q' : Query} (h : q.options.Binds) {conjunct negated : Bool}
    {column : String} {vs : List Value} (built : q.within conjunct column vs negated = .ok q') :
    q'.options.Binds := by
  unfold Query.within at built
  split at built
  · split at built
    · cases built
      exact h
    · cases built
  · cases built
    exact h
  · cases built
    exact h

theorem binds_search {q q' : Query} (h : q.options.Binds) {conjunct : Bool} {phrase : String}
    {method : SearchMethod} {columns : List String} {foreign : List ForeignColumn}
    (built : q.search conjunct phrase method columns foreign = .ok q') : q'.options.Binds := by
  unfold Query.search at built
  dsimp only at built
  split at built
  · cases built
  · split at built
    · cases built
    · cases built
      exact h

theorem options_addAssignment (q : Query) (a : Fragment) :
    (q.addAssignment a).options = q.options := by
  unfold Query.addAssignment
  split <;> rfl

end Query

namespace QueryStep

/-- Values stay bound. -/
theorem binds_apply {o : BuildOptions} {q q' : Query} (h : q.options.Binds) {s : QueryStep}
    (hs : s.IsChecked) (taken : s.apply o q = .ok q') : q'.options.Binds := by
  cases s with
  | parameterized on =>
    cases taken
    exact ⟨hs, h.2⟩
  | inlineLiterals on =>
    cases taken
    exact ⟨h.1, hs⟩
  | within =>
    simp only [apply] at taken
    exact Query.binds_within h taken
  | search =>
    simp only [apply] at taken
    exact Query.binds_search h taken
  | rawWith | joinRaw | join =>
    refine Query.holds_of_map (P := fun q => q.options.Binds) (fun _ => ?_) taken
    exact h
  | withinQuery =>
    simp only [apply] at taken
    refine Query.holds_of_map (P := fun q => q.options.Binds) (fun _ => ?_) taken
    exact h
  | assignRaw =>
    refine Query.holds_of_map (P := fun q => q.options.Binds) (fun a => ?_) taken
    rwa [Query.options_addAssignment]
  | assign =>
    cases taken
    rwa [Query.assign, Query.options_addAssignment]
  | between =>
    cases taken
    unfold Query.between
    split <;> exact h
  | columns | orderBy | limit | offset | allowUnfiltered =>
    cases taken
    first
      | unfold Query.withColumns
      | unfold Query.withOrder
      | unfold Query.withLimit
      | unfold Query.withOffset
      | unfold Query.allowUnfiltered
    split <;> exact h
  | raw => cases hs
  | tableAlias | suffix =>
    cases taken
    simpa only [Query.withAlias, Query.withSuffix] using h
  | separator | dialect | compare =>
    cases taken
    exact h

end QueryStep

mutual

theorem QueryStep.apply_checked {o : BuildOptions} (ho : isInertText o.separator = true)
    (bound : o.Binds) {q r : Query} (h : q.Expands r) (binds : q.options.Binds) (s : QueryStep)
    (hs : s.IsChecked) : Query.BothExpand (s.apply o q) (s.inlined.apply o.inlined r) := by
  cases s with
  | rawWith conjunct text values => exact h.template binds hs fun g => h.addCondition conjunct g
  | joinRaw text values => exact h.template binds hs h.addJoin
  | assignRaw text values => exact h.template binds hs h.addAssignment
  | withinQuery conjunct column nested negated =>
    obtain ⟨inert, inner⟩ := hs
    have sub := QueryPlan.build_checked ho bound nested inner
    simp only [QueryStep.apply, QueryStep.inlined]
    generalize nested.build o = built at sub ⊢
    generalize nested.inlined.build o.inlined = built' at sub ⊢
    cases sub with
    | ok g => exact .ok (h.withinQuery conjunct inert g negated)
    | error e => exact .error e
  | parameterized | inlineLiterals => exact QueryStep.apply_inlined ho h _ rfl
  | tableAlias | suffix | separator | dialect | raw | compare | within | between | search | join
  | columns | orderBy | limit | offset | assign | allowUnfiltered =>
    exact QueryStep.apply_inlined ho h _ hs

theorem QueryStep.applyAll_checked {o : BuildOptions} (ho : isInertText o.separator = true)
    (bound : o.Binds) {q r : Query} (h : q.Expands r) (binds : q.options.Binds)
    (ss : List QueryStep) (hs : QueryStep.AllChecked ss) :
    (QueryStep.applyAll o q ss).Expands
      (QueryStep.applyAll o.inlined r (QueryStep.inlinedAll ss)) := by
  cases ss with
  | nil => exact h
  | cons s ss =>
    obtain ⟨first, rest⟩ := hs
    have both := QueryStep.apply_checked ho bound h binds s first
    simp only [QueryStep.applyAll, QueryStep.inlinedAll]
    cases taken : s.apply o q with
    | ok q' =>
      rw [taken] at both
      generalize s.inlined.apply o.inlined r = outcome at both ⊢
      cases both with
      | ok g =>
        have binds := QueryStep.binds_apply binds first taken
        exact QueryStep.applyAll_checked ho bound g binds ss rest
    | error e =>
      rw [taken] at both
      generalize s.inlined.apply o.inlined r = outcome at both ⊢
      cases both with
      | error e => exact QueryStep.applyAll_checked ho bound h binds ss rest

theorem QueryPlan.build_checked {o : BuildOptions} (ho : isInertText o.separator = true)
    (bound : o.Binds) (p : QueryPlan) (hp : p.IsChecked) :
    Query.BothExpand (p.build o) (p.inlined.build o.inlined) := by
  cases p with
  | plan kind target options steps =>
    obtain ⟨inert, own, hs⟩ := hp
    have given : isInertText (options.getD o).separator = true ∧ (options.getD o).Binds := by
      cases options with
      | none => exact ⟨ho, bound⟩
      | some given => exact own given rfl
    have same : (options.map BuildOptions.inlined).getD o.inlined = (options.getD o).inlined := by
      cases options <;> rfl
    simp only [QueryPlan.build, QueryPlan.inlined, same]
    obtain ⟨name, named, ht⟩ | ⟨e, none⟩ := QueryTarget.tableName_cases inert
    · rw [named]
      have start := Query.expands_start kind ht given.1
      have binds : (Query.start kind name (options.getD o)).options.Binds := by
        cases kind <;> exact given.2
      exact .ok (QueryStep.applyAll_checked ho bound start binds steps hs)
    · rw [none]
      exact .error e

end

namespace Fragment

/-- As many placeholders as parameters, and the text of the other fragment once they are filled. -/
def Matches (a b : Fragment) : Prop :=
  placeholderCount .plain a.text = a.parameters.length ∧
    substitute .plain (a.parameters.map literalChars) a.text = b.text

/-- What stands before a fragment has no part in that. -/
theorem matches_append_iff {front : Fragment} (h : front.Expands front) {a b : Fragment} :
    (front ++ a).Matches (front ++ b) ↔ a.Matches b := by
  have none : front.parameters = [] := h.rest
  have count : placeholderCount .plain front.text = 0 := by rw [h.count, none]; rfl
  have same := @substitute_append_of_placeholderCount_eq_zero .plain front.text count
  simp [Matches, placeholderCount_append, none, count, h.run, same]

end Fragment

namespace Query

/-- As many placeholders as parameters, and the literals of the parameters put in their places give
the other query. -/
def Matches (q r : Query) : Prop :=
  (placeholderOffsets q.text).length = q.parameters.length ∧
    substitute .plain (q.parameters.map literalChars) q.text.toList = r.text.toList

theorem matches_iff {q r : Query} : q.Matches r ↔ q.fragment.Matches r.fragment := by
  simp only [Matches, Fragment.Matches, placeholderOffsets, length_offsetsFrom, text, parameters,
    String.toList_ofList]

/-! ## Text that is not settled -/

/-- A selection by two raw conditions, the second one right behind the first. -/
def twice (own : BuildOptions) (table : String) (f g : Fragment) : Query :=
  ((start .select table own).addCondition false f).addCondition false g

/-- What stands before the conditions of a selection. -/
def selecting (own : BuildOptions) (table : String) : Fragment :=
  .ofString "SELECT " ++ .ofString "*" ++ .ofString " FROM " ++ .ofString table ++
    .ofString own.separator ++ .ofString "WHERE "

theorem expands_selecting {own : BuildOptions} {table : String}
    (hown : isInertText own.separator = true) (ht : isInertText table = true) :
    (selecting own table).Expands (selecting own table) := by
  have fixed {s : String} (hs : Closed s.toList) := Fragment.expands_ofString hs
  exact (((((fixed (by decide)).append (fixed (by decide))).append (fixed (by decide))).append
    (expands_of_isInertText ht)).append (expands_of_isInertText hown)).append (fixed (by decide))

theorem fragment_twice (own : BuildOptions) (table : String) {f : Fragment} (ne : f.text ≠ [])
    (g : Fragment) : (twice own table f g).fragment = selecting own table ++ (f ++ g) := by
  have filled : (f ++ .empty ++ g).isEmpty = false := by simp [Fragment.isEmpty, ne]
  have condition : (twice own table f g).clause "WHERE " (f ++ .empty ++ g) =
      .ofString own.separator ++ .ofString "WHERE " ++ (f ++ .empty ++ g) :=
    if_neg (Bool.eq_false_iff.1 filled)
  have whole : (twice own table f g).fragment =
      .ofString "SELECT " ++ .ofString "*" ++ .ofString " FROM " ++
        (.ofString table ++ .empty ++ .empty ++ .empty ++
          (.ofString own.separator ++ .ofString "WHERE " ++ (f ++ .empty ++ g))) ++
        .empty ++ .empty ++ .empty := by
    rw [← condition]
    rfl
  rw [whole, selecting]
  simp only [Fragment.append_empty, Fragment.append_assoc]

end Query

namespace Fragment

/-- From every mode but plain text there is raw text that is in order by itself and loses its
placeholder when it is read from that mode. -/
theorem exists_lost {m : Mode} (pending : m ≠ .plain) :
    ∃ text, placeholderCount .plain text.toList = 1 ∧ Settled [.text "x"] text ∧
      placeholderCount m text.toList = 0 ∧
      ∀ d, fill (.binding d) .plain [.text "x"] text.toList = ⟨text.toList, [.text "x"]⟩ := by
  have alone : Settled [.text "x"] "?" := fun d => by cases d <;> decide
  cases m with
  | plain => exact absurd rfl pending
  | hyphen => exact ⟨"-?", by decide, fun d => by cases d <;> decide, rfl, fun _ => rfl⟩
  | slash => exact ⟨"*?", by decide, fun d => by cases d <;> decide, rfl, fun _ => rfl⟩
  | tag name => exact ⟨"$?", by decide, fun d => by cases d <;> decide, rfl, fun _ => rfl⟩
  | quoted | lineComment | blockComment | body => exact ⟨"?", by decide, alone, rfl, fun _ => rfl⟩

end Fragment

namespace QueryStep

/-- Two accepted raw conditions are put one behind the other. -/
theorem applyAll_twice (o own : BuildOptions) (table : String) {text text' : String}
    {values values' : List Value} (count : placeholderCount .plain text.toList = values.length)
    (count' : placeholderCount .plain text'.toList = values'.length) :
    applyAll o (.start .select table own)
        [.rawWith false text values, .rawWith false text' values'] =
      .twice own table (Fragment.fill own .plain values text.toList)
        (Fragment.fill own .plain values' text'.toList) := by
  simp only [applyAll, apply, Query.rawWith, Query.start, Query.select, Query.addCondition,
    Fragment.ofTemplate, count, count', ↓reduceIte, Except.map, Query.twice]

/-- Whether two accepted raw conditions are in order together is a matter of their text. -/
theorem matches_twice_iff (o : BuildOptions) {own : BuildOptions} {table : String}
    (hown : isInertText own.separator = true) (ht : isInertText table = true)
    {text text' : String} {values values' : List Value} (ne : text.toList ≠ [])
    (count : placeholderCount .plain text.toList = values.length)
    (count' : placeholderCount .plain text'.toList = values'.length) :
    (applyAll o (.start .select table own)
        [.rawWith false text values, .rawWith false text' values']).Matches
      (applyAll o.inlined (.start .select table own.inlined)
        (inlinedAll [.rawWith false text values, .rawWith false text' values'])) ↔
      (Fragment.fill own .plain values text.toList ++
          Fragment.fill own .plain values' text'.toList).Matches
        (Fragment.fill own.inlined .plain values text.toList ++
          Fragment.fill own.inlined .plain values' text'.toList) := by
  have same : inlinedAll [.rawWith false text values, .rawWith false text' values'] =
      [.rawWith false text values, .rawWith false text' values'] := by
    simp only [inlinedAll, inlined]
  have filled (own : BuildOptions) := Fragment.fill_ne_nil own .plain values ne
  rw [same, applyAll_twice _ _ _ count count', applyAll_twice _ _ _ count count',
    Query.matches_iff, Query.fragment_twice _ _ (filled _), Query.fragment_twice _ _ (filled _)]
  exact Fragment.matches_append_iff (Query.expands_selecting hown ht)

/-- Behind raw text that is accepted and not settled, some text that is settled loses its
placeholder. -/
theorem exists_not_matches (o : BuildOptions) {table : String} (ht : isInertText table = true)
    {text : String} {values : List Value}
    (count : placeholderCount .plain text.toList = values.length)
    (unsettled : ¬ Fragment.Settled values text) :
    ∃ d text' values', placeholderCount .plain text'.toList = values'.length ∧
      Fragment.Settled values' text' ∧
      let steps := [.rawWith false text values, .rawWith false text' values']
      ¬ (applyAll o (.start .select table (.binding d)) steps).Matches
        (applyAll o.inlined (.start .select table (BuildOptions.binding d).inlined)
          (inlinedAll steps)) := by
  obtain ⟨d, unsettled⟩ := not_forall.1 unsettled
  have ne : text.toList ≠ [] := by
    intro empty
    rw [empty] at unsettled
    exact unsettled ⟨rfl, rfl⟩
  have space : isInertText (BuildOptions.binding d).separator = true := by
    change isInertText " " = true
    decide
  have right :=
    Fragment.found_iff (BuildOptions.binds_binding d) .plain .plain 0 values text.toList
  by_cases found :
      offsetsFrom .plain 0 (Fragment.fill (.binding d) .plain values text.toList).text =
        (Fragment.marks (.binding d) .plain 0 values text.toList).map Prod.fst
  · -- the scan ends in a region or with an opening pending, which text behind it is read in
    obtain ⟨text', count', settled', lost, filled⟩ :=
      Fragment.exists_lost fun run => unsettled ⟨found, run⟩
    refine ⟨d, text', [.text "x"], count', settled', fun all => ?_⟩
    obtain ⟨less, -⟩ := (matches_twice_iff o space ht ne count count').1 all
    rw [filled, Fragment.text_append, Fragment.parameters_append, placeholderCount_append, lost,
      (right.1 found).1, List.length_append, List.length_singleton] at less
    omega
  · -- the filled text is wrong by itself, with nothing behind it
    refine ⟨d, "", [], rfl, fun _ => ⟨rfl, rfl⟩, fun all => ?_⟩
    have nothing (own : BuildOptions) : Fragment.fill own .plain [] "".toList = .empty := rfl
    have alone := (matches_twice_iff o space ht ne count rfl).1 all
    rw [nothing, nothing, Fragment.append_empty, Fragment.append_empty] at alone
    exact found (right.2 alone)

/-- In every query whose raw text is checked and settled the placeholders are those of the
parameters. Raw text that the check lets pass and that is not settled is such that some text behind
it, checked and settled, loses its placeholder. -/
theorem matches_applyAll (kind : QueryKind) {table : String} (ht : isInertText table = true)
    {own o : BuildOptions} (hown : isInertText own.separator = true ∧ own.Binds)
    (ho : isInertText o.separator = true ∧ o.Binds) :
    (∀ steps, AllChecked steps →
      (applyAll o (.start kind table own) steps).Matches
        (applyAll o.inlined (.start kind table own.inlined) (inlinedAll steps))) ∧
    ∀ text values, placeholderCount .plain text.toList = values.length →
      ¬ Fragment.Settled values text →
      ∃ d text' values', placeholderCount .plain text'.toList = values'.length ∧
        Fragment.Settled values' text' ∧
        let steps := [.rawWith false text values, .rawWith false text' values']
        ¬ (applyAll o (.start .select table (.binding d)) steps).Matches
          (applyAll o.inlined (.start .select table (BuildOptions.binding d).inlined)
            (inlinedAll steps)) := by
  refine ⟨fun steps checked => ?_, fun _ _ count => exists_not_matches o ht count⟩
  have binds : (Query.start kind table own).options.Binds := by cases kind <;> exact hown.2
  exact (applyAll_checked ho.1 ho.2 (Query.expands_start kind ht hown.1) binds steps checked).text

/-- Raw text with quoted question marks and a comment that is closed, in a nested query too. -/
def checkedSteps : List QueryStep :=
  [.joinRaw "JOIN u ON u.a=? AND u.b='?'" [.int 1],
    .rawWith false "x=? /* ? */" [.text "$?"],
    .withinQuery true "c" (.plan .select (.table "v") none
      [.compare false "d" (.text "--") false, .rawWith true "e<?" [.null]]) false,
    .compare true "f" (.text "?") false]

theorem checkedSteps_allChecked : AllChecked checkedSteps := by
  have settled {values : List Value} {text : String}
      (h : Fragment.SettledUnder (.binding .postgres) values text.toList ∧
        Fragment.SettledUnder (.binding .sqlite) values text.toList ∧
        Fragment.SettledUnder (.binding .mysql) values text.toList) :
      Fragment.Composable values text := by
    rintro - d
    cases d
    exacts [h.1, h.2.2, h.2.1]
  refine ⟨settled (by decide), settled (by decide), ⟨by decide, by decide, ?_, ?_⟩, rfl, trivial⟩
  · simp
  · exact ⟨rfl, settled (by decide), trivial⟩

theorem matches_checkedSteps :
    let q := applyAll (.binding .postgres) (.start .select "t" (.binding .postgres)) checkedSteps
    let r := applyAll (BuildOptions.binding .postgres).inlined
      (.start .select "t" (BuildOptions.binding .postgres).inlined) (inlinedAll checkedSteps)
    q.text = "SELECT * FROM t JOIN u ON u.a=? AND u.b='?' WHERE x=? /* ? */" ++
        " AND c IN (SELECT * FROM v WHERE d=? AND e<NULL) AND f=?" ∧
      q.parameters.length = 4 ∧ q.Matches r := by
  intro q r
  obtain ⟨checked, -⟩ := @matches_applyAll .select "t" (by decide) (.binding .postgres)
    (.binding .postgres) (by decide) (by decide)
  exact ⟨by decide, by decide, checked checkedSteps checkedSteps_allChecked⟩

/-- A line comment at the end of accepted raw text takes away the placeholder of the condition
behind it. -/
theorem not_matches_trailingComment :
    let steps := [.rawWith false "a=? -- note" [.int 1], .compare true "b" (.int 2) false]
    let q := applyAll (.binding .postgres) (.start .select "t" (.binding .postgres)) steps
    placeholderCount .plain "a=? -- note".toList = 1 ∧
      q.text = "SELECT * FROM t WHERE a=? -- note AND b=?" ∧ q.parameters.length = 2 ∧
      (placeholderOffsets q.text).length = 1 ∧ ∀ r, ¬ q.Matches r := by
  refine ⟨by decide, by decide, by decide, by decide, fun r same => ?_⟩
  exact absurd same.1 (by decide)

end QueryStep

end DataMapper
