import DataMapper.Proofs.Query.Fragments
import DataMapper.Proofs.Sql.Regions

/-!
# Values in raw text

The placeholders of raw text are counted before values take their places. A value leaves the text
around it as it was read before, unless its literal joins a character next to it: a minus sign
behind a hyphen begins a comment, and a bare word or number behind a dollar sign may make up a tag.

## Main definitions

* `Fragment.marks` — the question marks that are written, with their parameters.
* `Fragment.KeepsText` — the written marks are all that is found, and live text stays live.
* `Fragment.clashes` — whether a literal joins what is next to it, read off the raw text.
-/

namespace DataMapper

open Sql Text

namespace Sql

/-! ## What stands for a value -/

/-- What is written out for a value: a literal, or a name or call without delimiters. -/
inductive Written : List Char → Prop where
  | inert {cs : List Char} (ne : cs ≠ []) (h : cs.all isInert = true) : Written cs
  | literal {cs : List Char} (h : LiteralShape cs) : Written cs

theorem Mode.extendsTag_eq_true {m : Mode} {cs : List Char} (h : m.extendsTag cs = true)
    (ne : cs ≠ []) : ∃ name, m.run cs = tag name ∧ name ≠ [] := by
  cases m with
  | tag name => exact ⟨name ++ cs, run_of_extendsTag h, by simp [ne]⟩
  | plain | hyphen | slash | quoted | lineComment | blockComment | body => cases h

/-- Behind a value the scan is in a tag if the value goes on with one, else in plain text. -/
theorem Written.run {m : Mode} {cs : List Char} (h : Written cs) (live : m.isLive = true)
    (apart : m = .hyphen → cs.head? ≠ some '-') :
    m.extendsTag cs = false ∧ m.run cs = .plain ∨
      m.extendsTag cs = true ∧ ∃ name, m.run cs = .tag name ∧ name ≠ [] := by
  have bare {cs : List Char} (ne : cs ≠ []) (inert : cs.all isInert = true) :
      m.extendsTag cs = false ∧ m.run cs = .plain ∨
        m.extendsTag cs = true ∧ ∃ name, m.run cs = .tag name ∧ name ≠ [] := by
    cases tagged : m.extendsTag cs with
    | false => exact .inl ⟨rfl, Mode.run_of_not_extendsTag live ne inert tagged⟩
    | true => exact .inr ⟨rfl, Mode.extendsTag_eq_true tagged ne⟩
  cases h with
  | inert ne inert => exact bare ne inert
  | literal shape =>
    cases shape with
    | word word => exact bare word.1 word.all_isInert
    | @negative digits word =>
      have minus : '-' ∈ '-' :: digits := List.mem_cons_self
      have behind : m ≠ .hyphen := fun same => apart same rfl
      exact .inl ⟨Mode.extendsTag_of_mem minus (by decide), word.run_minus live behind⟩
    | quoted cs =>
      have quote : '\'' ∈ quoted cs := by simp [quoted]
      exact .inl ⟨Mode.extendsTag_of_mem quote (by decide), run_quoted live cs⟩
    | bytes cs =>
      have quote : '\'' ∈ 'X' :: quoted cs := by simp [quoted]
      exact .inl ⟨Mode.extendsTag_of_mem quote (by decide), run_bytes live cs⟩

theorem Written.placeholderCount {m : Mode} {cs : List Char} (h : Written cs)
    (live : m.isLive = true) : placeholderCount m cs = 0 := by
  cases h with
  | inert _ inert => exact placeholderCount_of_all_isInert inert m
  | literal shape => exact shape.placeholderCount live

/-- Only a negative number begins with a minus sign, which turns the rest of it into a comment. -/
theorem Written.run_hyphen {cs : List Char} (h : Written cs) (minus : cs.head? = some '-') :
    Mode.hyphen.run cs = .lineComment := by
  have bare (inert : cs.all isInert = true) : Mode.hyphen.run cs = .lineComment :=
    absurd (List.all_eq_true.1 inert _ (List.mem_of_mem_head? minus)) (by decide)
  cases h with
  | inert _ inert => exact bare inert
  | literal shape =>
    cases shape with
    | word word => exact bare word.all_isInert
    | negative word => exact word.run_minus_hyphen
    | quoted cs => exact absurd minus (by simp [quoted])
    | bytes cs => exact absurd minus (by simp)

end Sql

namespace Fragment

/-- A value is a placeholder with its parameter, or it is written out. -/
theorem ofValue_cases (o : BuildOptions) (v : Value) :
    ofValue o v = ⟨['?'], [v]⟩ ∨ ∃ cs, ofValue o v = ofText cs ∧ Written cs := by
  rcases ofValue_forms o v with mark | literal | null | now
  · exact .inl mark
  · exact .inr ⟨_, literal, .literal (literalChars_shape v)⟩
  · exact .inr ⟨_, null, .inert (by decide) (by decide)⟩
  · refine .inr ⟨_, now, ?_⟩
    cases o.dialect <;> exact .inert (by decide) (by decide)

/-! ## The text that results -/

/-- The byte offsets of the question marks that are written for parameters, and the parameters. -/
def marks (o : BuildOptions) (m : Mode) (offset : Nat) :
    List Value → List Char → List (Nat × Value)
  | _, [] => []
  | vs, c :: cs =>
    match isPlaceholder m c, vs with
    | true, v :: vs =>
      let written := ofValue o v
      written.parameters.map (offset, ·) ++
        marks o (m.step c) (offset + byteLength written.text) vs cs
    | _, vs => marks o (m.step c) (offset + c.utf8Size) vs cs

/-- The scan of the filled text finds the question marks that are written for parameters, and what
is live in the raw text is live in it; so is what is live in a clause that comes behind. -/
structure KeepsText (o : BuildOptions) (values : List Value) (text : List Char) : Prop where
  found : offsetsFrom .plain 0 (fill o .plain values text).text =
    (marks o .plain 0 values text).map Prod.fst
  inside : ∀ before, before <+: text → (Mode.plain.run before).isLive = true →
    (Mode.plain.run (fill o .plain values before).text).isLive = true
  behind : ∀ clause, (Mode.plain.run (text ++ clause)).isLive = true →
    (Mode.plain.run ((fill o .plain values text).text ++ clause)).isLive = true

/-- Does a literal join what is next to it? It does with a minus sign behind a hyphen; and it does
when literals go on with a possible tag of the raw text, where a dollar sign or the end of the text
comes before anything that ends the tag. While a tag is `pending` the raw text is in none. -/
def clashes (o : BuildOptions) (m : Mode) (pending : Bool) : List Value → List Char → Bool
  | _, [] => pending
  | vs, c :: cs =>
    match isPlaceholder m c, vs with
    | true, v :: vs =>
      let written := (ofValue o v).text
      (m == .hyphen && written.head? == some '-') ||
        clashes o (m.step c) (m.extendsTag written || pending && written.all isNameChar) vs cs
    | _, vs => (pending && c == '$') || clashes o (m.step c) (pending && isNameChar c) vs cs

/-- The next character is copied, or a value takes its place. -/
theorem next_cases (m : Mode) (vs : List Value) (c : Char) :
    (isPlaceholder m c = false ∨ vs = []) ∨
      isPlaceholder m c = true ∧ ∃ v ws, vs = v :: ws := by
  cases isPlaceholder m c with
  | false => exact .inl (.inl rfl)
  | true =>
    cases vs with
    | nil => exact .inl (.inr rfl)
    | cons v ws => exact .inr ⟨rfl, v, ws, rfl⟩

section

variable (o : BuildOptions) {m : Mode} {c : Char} (cs : List Char)

theorem fill_copy {vs : List Value} (h : isPlaceholder m c = false ∨ vs = []) :
    fill o m vs (c :: cs) = ofText [c] ++ fill o (m.step c) vs cs := by
  rcases h with h | rfl
  · simp [fill, h]
  · simp [fill]

theorem fill_value (h : isPlaceholder m c = true) (v : Value) (vs : List Value) :
    fill o m (v :: vs) (c :: cs) = ofValue o v ++ fill o (m.step c) vs cs := by
  simp [fill, h]

theorem marks_copy {vs : List Value} (h : isPlaceholder m c = false ∨ vs = []) (offset : Nat) :
    marks o m offset vs (c :: cs) = marks o (m.step c) (offset + c.utf8Size) vs cs := by
  rcases h with h | rfl
  · simp [marks, h]
  · simp [marks]

theorem marks_value (h : isPlaceholder m c = true) (v : Value) (vs : List Value) (offset : Nat) :
    marks o m offset (v :: vs) (c :: cs) =
      (ofValue o v).parameters.map (offset, ·) ++
        marks o (m.step c) (offset + byteLength (ofValue o v).text) vs cs := by
  simp [marks, h]

theorem clashes_copy {vs : List Value} (h : isPlaceholder m c = false ∨ vs = []) (p : Bool) :
    clashes o m p vs (c :: cs) =
      ((p && c == '$') || clashes o (m.step c) (p && isNameChar c) vs cs) := by
  rcases h with h | rfl
  · simp [clashes, h]
  · simp [clashes]

theorem clashes_value (h : isPlaceholder m c = true) (v : Value) (vs : List Value) (p : Bool) :
    clashes o m p (v :: vs) (c :: cs) =
      ((m == .hyphen && (ofValue o v).text.head? == some '-') ||
        clashes o (m.step c)
          (m.extendsTag (ofValue o v).text || p && (ofValue o v).text.all isNameChar) vs cs) := by
  simp [clashes, h]

end

/-- Every parameter has its mark. -/
theorem snd_marks (o : BuildOptions) (m : Mode) (offset : Nat) (vs : List Value) (cs : List Char) :
    (marks o m offset vs cs).map Prod.snd = (fill o m vs cs).parameters := by
  induction cs generalizing m offset vs with
  | nil => rfl
  | cons c cs ih =>
    rcases next_cases m vs c with copied | ⟨mark, v, ws, rfl⟩
    · rw [marks_copy o cs copied, fill_copy o cs copied, ih]
      rfl
    · rw [marks_value o cs mark, fill_value o cs mark, List.map_append, ih, List.map_map,
        parameters_append]
      exact congrArg (· ++ _) (List.map_id _)

/-! ## Two scans -/

/-- The scan of the filled text is where the scan of the raw text is; or, while a tag is pending, in
that tag, where the other one is in plain text. -/
inductive Follows : Bool → Mode → Mode → Prop where
  | same (m : Mode) : Follows false m m
  | tag {name : List Char} (ne : name ≠ []) : Follows true .plain (.tag name)

theorem Follows.isLive_eq {pending : Bool} {m k : Mode} (h : Follows pending m k) :
    k.isLive = m.isLive := by
  cases h <;> rfl

theorem Follows.isPlaceholder_eq {pending : Bool} {m k : Mode} (h : Follows pending m k)
    (c : Char) : isPlaceholder k c = isPlaceholder m c := by
  rw [isPlaceholder, isPlaceholder, h.isLive_eq]

/-- A character that is copied. -/
theorem Follows.copy {pending : Bool} {m k : Mode} (h : Follows pending m k) {c : Char}
    (safe : (pending && c == '$') = false) :
    Follows (pending && isNameChar c) (m.step c) (k.step c) := by
  cases h with
  | same m => exact .same _
  | @tag name ne =>
    have other : c ≠ '$' := by simpa using safe
    cases joins : isNameChar c with
    | true =>
      have next : (Mode.tag name).step c = .tag (name ++ [c]) := by
        simp [Mode.step, other, joins, ne]
      rw [next, Mode.step_plain, Mode.enter_of_isNameChar joins]
      exact .tag (by simp)
    | false =>
      have next : (Mode.tag name).step c = Mode.enter c := by simp [Mode.step, other, joins]
      rw [next, Mode.step_plain]
      exact .same _

theorem isLive_of_isPlaceholder {m : Mode} {c : Char} (h : isPlaceholder m c = true) :
    m.isLive = true := by
  rw [isPlaceholder, Bool.and_eq_true] at h
  exact h.1

theorem step_of_isPlaceholder {m : Mode} {c : Char} (h : isPlaceholder m c = true) :
    m.step c = .plain := by
  obtain ⟨live, mark⟩ : m.isLive = true ∧ c = '?' := by simpa [isPlaceholder] using h
  subst mark
  cases m with
  | plain | hyphen | slash => rfl
  | tag name =>
    have notName : isNameChar '?' = false := by decide
    simp [Mode.step, Mode.enter, notName]
  | quoted | lineComment | blockComment | body => cases live

/-- A value that is written. -/
theorem Follows.value {pending : Bool} {m k : Mode} (h : Follows pending m k)
    (live : m.isLive = true) {o : BuildOptions} {v : Value}
    (apart : (m == .hyphen && (ofValue o v).text.head? == some '-') = false) :
    Follows (m.extendsTag (ofValue o v).text || pending && (ofValue o v).text.all isNameChar)
      .plain (k.run (ofValue o v).text) := by
  rcases ofValue_cases o v with mark | ⟨cs, same, written⟩
  · have stops (m : Mode) : m.extendsTag ['?'] = false :=
      Mode.extendsTag_of_mem List.mem_cons_self (by decide)
    have noTag : ['?'].all isNameChar = false := by decide
    have next : k.step '?' = .plain :=
      step_of_isPlaceholder (by rw [isPlaceholder, h.isLive_eq, live]; rfl)
    rw [mark, stops, noTag, Bool.and_false, Mode.run_cons, next]
    exact .same _
  · rw [same] at apart ⊢
    simp only [ofText] at apart ⊢
    cases h with
    | same m =>
      have behind : m = .hyphen → cs.head? ≠ some '-' := by simpa using apart
      rw [Bool.false_and, Bool.or_false]
      rcases written.run live behind with ⟨none, ended⟩ | ⟨tagged, name, more, ne⟩
      · rw [none, ended]
        exact .same _
      · rw [tagged, more]
        exact .tag ne
    | @tag name ne =>
      have sameTag : (Mode.tag name).extendsTag cs = cs.all isNameChar := by
        simp [Mode.extendsTag, ne]
      have noTag : Mode.plain.extendsTag cs = false := rfl
      rw [noTag, Bool.false_or, Bool.true_and, ← sameTag]
      rcases written.run (m := .tag name) rfl (by simp) with ⟨none, ended⟩ | ⟨tagged, _, more, ne⟩
      · rw [none, ended]
        exact .same _
      · rw [tagged, more]
        exact .tag ne

/-- What is found in the text of a value is its mark. -/
theorem offsetsFrom_value {k : Mode} (live : k.isLive = true) (o : BuildOptions) (v : Value)
    (offset : Nat) :
    offsetsFrom k offset (ofValue o v).text =
      ((ofValue o v).parameters.map (offset, ·)).map Prod.fst := by
  rcases ofValue_cases o v with mark | ⟨cs, same, written⟩
  · rw [mark]
    simp [offsetsFrom, isPlaceholder, live]
  · rw [same]
    have none : (offsetsFrom k offset cs).length = 0 := by
      rw [length_offsetsFrom, written.placeholderCount live]
    exact List.eq_nil_of_length_eq_zero none

section

variable {o : BuildOptions} {pending : Bool} {m k : Mode} {vs : List Value} {text : List Char}

/-- Where no literal joins what is next to it, the marks are found. -/
theorem found_of_not_clashes (h : Follows pending m k) (count : placeholderCount m text = vs.length)
    (safe : clashes o m pending vs text = false) (offset : Nat) :
    offsetsFrom k offset (fill o m vs text).text = (marks o m offset vs text).map Prod.fst := by
  induction text generalizing pending m k vs offset with
  | nil => rfl
  | cons c cs ih =>
    rw [placeholderCount] at count
    rcases next_cases m vs c with copied | ⟨mark, v, ws, rfl⟩
    · have other : isPlaceholder m c = false := by
        rcases copied with other | rfl
        · exact other
        · simp only [List.length_nil, Nat.add_eq_zero_iff, ite_eq_right_iff, Nat.one_ne_zero,
            imp_false, Bool.not_eq_true] at count
          exact count.2
      rw [clashes_copy o cs copied, Bool.or_eq_false_iff] at safe
      have rest := ih (h.copy safe.1) (by simpa [other] using count) safe.2 (offset + c.utf8Size)
      rw [fill_copy o cs copied, marks_copy o cs copied, ← rest]
      simp [ofText, offsetsFrom, h.isPlaceholder_eq, other]
    · have live := isLive_of_isPlaceholder mark
      rw [clashes_value o cs mark, Bool.or_eq_false_iff] at safe
      rw [step_of_isPlaceholder mark] at safe count
      have rest := ih (h.value live safe.1) (by simpa [mark] using count) safe.2
        (offset + byteLength (ofValue o v).text)
      rw [fill_value o cs mark, marks_value o cs mark, List.map_append, text_append,
        offsetsFrom_append, offsetsFrom_value (h.isLive_eq.trans live), step_of_isPlaceholder mark,
        rest]

/-- Where no literal joins what is next to it, the scan of the filled text follows that of the raw
text, and has caught up with it at the end. -/
theorem follows_of_not_clashes (h : Follows pending m k)
    (safe : clashes o m pending vs text = false) :
    (∀ before, before <+: text →
      ∃ p, Follows p (m.run before) (k.run (fill o m vs before).text)) ∧
      k.run (fill o m vs text).text = m.run text := by
  induction text generalizing pending m k vs with
  | nil =>
    refine ⟨?_, ?_⟩
    · intro before hb
      rw [List.prefix_nil.1 hb]
      exact ⟨pending, h⟩
    · cases h with
      | same m => rfl
      | tag ne => cases safe
  | cons c cs ih =>
    -- what holds behind the next character holds of the whole
    have lift {piece : Fragment} {ws : List Value} {p : Bool}
        (filled : ∀ cs, fill o m vs (c :: cs) = piece ++ fill o (m.step c) ws cs)
        (next : Follows p (m.step c) (k.run piece.text))
        (rest : clashes o (m.step c) p ws cs = false) :
        (∀ before, before <+: c :: cs →
          ∃ p, Follows p (m.run before) (k.run (fill o m vs before).text)) ∧
          k.run (fill o m vs (c :: cs)).text = m.run (c :: cs) := by
      obtain ⟨inside, caught⟩ := ih next rest
      refine ⟨?_, ?_⟩
      · intro before hb
        cases before with
        | nil => exact ⟨pending, h⟩
        | cons d ds =>
          obtain ⟨rfl, hds⟩ := List.cons_prefix_cons.1 hb
          rw [filled, text_append, Mode.run_append]
          exact inside ds hds
      · rw [filled, text_append, Mode.run_append, caught, Mode.run_cons]
    rcases next_cases m vs c with copied | ⟨mark, v, ws, rfl⟩
    · rw [clashes_copy o cs copied, Bool.or_eq_false_iff] at safe
      exact lift (fun cs => fill_copy o cs copied) (h.copy safe.1) safe.2
    · have live := isLive_of_isPlaceholder mark
      rw [clashes_value o cs mark, Bool.or_eq_false_iff] at safe
      refine lift (fun cs => fill_value o cs mark v ws) ?_ safe.2
      rw [step_of_isPlaceholder mark]
      exact h.value live safe.1

/-- Where live text stays live, no literal joins what is next to it. -/
theorem not_clashes_of_isLive (h : Follows pending m k)
    (inside : ∀ before, before <+: text → (m.run before).isLive = true →
      (k.run (fill o m vs before).text).isLive = true)
    (behind : ∀ clause, (m.run (text ++ clause)).isLive = true →
      (k.run ((fill o m vs text).text ++ clause)).isLive = true) :
    clashes o m pending vs text = false := by
  induction text generalizing pending m k vs with
  | nil =>
    cases h with
    | same m => rfl
    | @tag name ne =>
      have body := behind ['$'] rfl
      simp [fill, empty, Mode.step, Mode.isLive] at body
  | cons c cs ih =>
    -- what is asked of the whole is asked of what is behind the next character
    have lower {piece : Fragment} {ws : List Value} {p : Bool}
        (filled : ∀ cs, fill o m vs (c :: cs) = piece ++ fill o (m.step c) ws cs)
        (next : Follows p (m.step c) (k.run piece.text)) :
        clashes o (m.step c) p ws cs = false := by
      refine ih next ?_ ?_
      · intro before hb live
        have whole := inside (c :: before) (List.cons_prefix_cons.2 ⟨rfl, hb⟩) live
        rwa [filled, text_append, Mode.run_append] at whole
      · intro clause live
        have whole := behind clause live
        rwa [filled, text_append, List.append_assoc, Mode.run_append] at whole
    have first : [c] <+: c :: cs := List.cons_prefix_cons.2 ⟨rfl, List.nil_prefix⟩
    rcases next_cases m vs c with copied | ⟨mark, v, ws, rfl⟩
    · have safe : (pending && c == '$') = false := by
        cases h with
        | same m => rfl
        | @tag name ne =>
          by_cases dollar : c = '$'
          · subst dollar
            have body := inside ['$'] first rfl
            rw [fill_copy o [] copied] at body
            simp [fill, empty, ofText, Mode.step, Mode.isLive] at body
          · simp [dollar]
      rw [clashes_copy o cs copied, safe, Bool.false_or]
      exact lower (fun cs => fill_copy o cs copied) (h.copy safe)
    · have live := isLive_of_isPlaceholder mark
      have safe : (m == .hyphen && (ofValue o v).text.head? == some '-') = false := by
        by_cases joined : m = .hyphen ∧ (ofValue o v).text.head? = some '-'
        · obtain ⟨rfl, minus⟩ := joined
          cases h
          have comment := inside [c] first (by rw [Mode.run_cons, step_of_isPlaceholder mark]; rfl)
          rw [fill_value o [] mark] at comment
          rcases ofValue_cases o v with marked | ⟨cs, same, written⟩
          · rw [marked] at minus
            exact absurd minus (by simp)
          · rw [same] at minus comment
            simp only [fill, empty, ofText, text_append, List.append_nil] at minus comment
            rw [written.run_hyphen minus] at comment
            cases comment
        · simpa using joined
      rw [clashes_value o cs mark, safe, Bool.false_or]
      refine lower (fun cs => fill_value o cs mark v ws) ?_
      rw [step_of_isPlaceholder mark]
      exact h.value live safe

end

/-- Raw text with as many placeholders as values, once it is filled: the marks belong to the
parameters in their order; and they are what is found, with live text staying live, if and only if
no literal joins what is next to it. -/
theorem keepsText_iff {o : BuildOptions} {text : String} {values : List Value} {f : Fragment}
    (h : ofTemplate o text values = .ok f) :
    f = fill o .plain values text.toList ∧
      (marks o .plain 0 values text.toList).map Prod.snd = f.parameters ∧
      (KeepsText o values text.toList ↔ clashes o .plain false values text.toList = false) := by
  obtain ⟨count, filled⟩ : placeholderCount .plain text.toList = values.length ∧
      f = fill o .plain values text.toList := by
    unfold ofTemplate at h
    dsimp only at h
    split at h
    · cases h
      exact ⟨‹_›, rfl⟩
    · cases h
  refine ⟨filled, filled ▸ snd_marks o .plain 0 values text.toList, ?_, ?_⟩
  · intro keeps
    exact not_clashes_of_isLive (.same .plain) keeps.inside keeps.behind
  · intro safe
    obtain ⟨inside, caught⟩ := follows_of_not_clashes (.same .plain) safe
    refine ⟨found_of_not_clashes (.same .plain) count safe 0, ?_, ?_⟩
    · intro before hb live
      obtain ⟨p, follows⟩ := inside before hb
      exact follows.isLive_eq.trans live
    · intro clause live
      rw [Mode.run_append] at live ⊢
      rwa [caught]

/-- A positive number behind a hyphen leaves the text as it was read. -/
theorem keepsText_positive :
    ∃ f, ofTemplate {} "a=-? AND b=?" [.int 1, .text "x"] = .ok f ∧
      f.text = "a=-1 AND b=?".toList ∧
      KeepsText {} [.int 1, .text "x"] "a=-? AND b=?".toList := by
  refine ⟨_, rfl, by decide, ?_⟩
  obtain ⟨-, -, keeps⟩ := @keepsText_iff {} "a=-? AND b=?" [.int 1, .text "x"] _ rfl
  exact keeps.2 (by decide)

/-- A negative number behind a hyphen makes a comment of the text that follows, with the placeholder
in it. -/
theorem not_keepsText_negative :
    ∃ f, ofTemplate {} "a=-? AND b=?" [.int (-1), .text "x"] = .ok f ∧
      f.text = "a=--1 AND b=?".toList ∧ f.parameters.length = 1 ∧
      placeholderOffsets (String.ofList f.text) = [] ∧
      ¬ KeepsText {} [.int (-1), .text "x"] "a=-? AND b=?".toList := by
  refine ⟨_, rfl, by decide, by decide, by decide, ?_⟩
  intro keeps
  have found := keeps.found
  exact absurd found (by decide)

end Fragment

end DataMapper
