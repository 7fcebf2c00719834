import DataMapper.Proofs.Sql.Regions
import Mathlib.Logic.ExistsUnique

/-!
# The division of SQL text

SQL text falls into quoted runs, comments, dollar-quoted bodies and single characters, from left to
right and in one way only. The placeholders are the question marks that are single characters.

## Main definitions

* `cut` — the first occurrence of a pattern.
* `Opening` — what opens a region, and what closes it.
* `Divides` — a text and the pieces it falls into.
* `marks` — the single question marks among the pieces.
-/

namespace DataMapper.Sql

open Text

/-! ## First occurrences -/

/-- The text before the first occurrence of a pattern and the text behind it. -/
def cut (pattern : List Char) : List Char → Option (List Char × List Char)
  | [] => if pattern = [] then some ([], []) else none
  | c :: cs =>
    if pattern <+: c :: cs then some ([], (c :: cs).drop pattern.length)
    else (cut pattern cs).map fun split => (c :: split.1, split.2)

/-- A text runs to the first occurrence of what closes it. -/
def Closes (closer body : List Char) : Prop := ¬ closer <:+: (body ++ closer).dropLast

section

variable {p : List Char} (ne : p ≠ [])
include ne

theorem dropLast_cons_append (c : Char) (cs : List Char) :
    (c :: cs ++ p).dropLast = c :: (cs ++ p).dropLast := by
  rw [List.cons_append, List.dropLast_cons_of_ne_nil (by simp [ne])]

theorem closes_nil : Closes p [] := by
  intro shorter
  have length := shorter.length_le
  have pos := List.length_pos_iff.2 ne
  simp only [List.nil_append, List.length_dropLast] at length
  omega

theorem closes_cons_iff {c : Char} {cs after : List Char} (h : ¬ p <+: c :: cs ++ p ++ after) :
    Closes p (c :: cs) ↔ Closes p cs := by
  have before : ¬ p <+: c :: (cs ++ p).dropLast := by
    intro early
    refine h (early.trans ?_)
    rw [← dropLast_cons_append ne]
    exact (List.dropLast_prefix _).trans (List.prefix_append _ _)
  rw [Closes, Closes, dropLast_cons_append ne, List.infix_cons_iff]
  simp [before]

theorem cut_eq_some_iff {cs before after : List Char} :
    cut p cs = some (before, after) ↔ cs = before ++ p ++ after ∧ Closes p before := by
  induction cs generalizing before with
  | nil => simp [cut, ne]
  | cons c cs ih =>
    by_cases first : p <+: c :: cs
    · obtain ⟨rest, same⟩ := first
      have found : cut p (c :: cs) = some ([], rest) := by
        simp [cut, ← same]
      rw [found, ← same]
      constructor
      · rintro ⟨rfl, rfl⟩
        exact ⟨rfl, closes_nil ne⟩
      · rintro ⟨split, closes⟩
        cases before with
        | nil => simpa using split
        | cons d ds =>
          -- an occurrence in front would be an earlier one
          refine absurd ?_ closes
          have front : p <+: p ++ rest := List.prefix_append _ _
          rw [dropLast_cons_append ne]
          refine List.IsPrefix.isInfix (List.prefix_of_prefix_length_le front ?_ ?_)
          · rw [split, ← dropLast_cons_append ne]
            exact (List.dropLast_prefix _).trans (List.prefix_append _ _)
          · simp
            omega
    · rw [cut, if_neg first]
      constructor
      · intro found
        obtain ⟨⟨front, behind⟩, rest, same⟩ := Option.map_eq_some_iff.1 found
        obtain ⟨rfl, rfl⟩ := Prod.ext_iff.1 same
        obtain ⟨rfl, closes⟩ := ih.1 rest
        exact ⟨rfl, (closes_cons_iff ne first).2 closes⟩
      · rintro ⟨split, closes⟩
        cases before with
        | nil => exact absurd ⟨after, split.symm⟩ first
        | cons d ds =>
          obtain ⟨rfl, rfl⟩ := List.cons.inj split
          rw [ih.2 ⟨rfl, (closes_cons_iff ne first).1 closes⟩]
          rfl

theorem cut_of_closes {body : List Char} (closes : Closes p body) (cs : List Char) :
    cut p (body ++ p ++ cs) = some (body, cs) :=
  (cut_eq_some_iff ne).2 ⟨rfl, closes⟩

theorem cut_eq_none_iff {cs : List Char} : cut p cs = none ↔ ¬ p <:+: cs := by
  induction cs with
  | nil => simp [cut, ne]
  | cons c cs ih =>
    by_cases first : p <+: c :: cs
    · simp [cut, first, first.isInfix]
    · rw [cut, if_neg first, Option.map_eq_none_iff, ih, List.infix_cons_iff]
      simp [first]

end

theorem not_prefix_of_head {p cs : List Char} {c : Char} (ne : p ≠ []) (other : p.head? ≠ some c) :
    ¬ p <+: c :: cs := by
  obtain ⟨d, p, rfl⟩ := List.exists_cons_of_ne_nil ne
  intro first
  exact other (congrArg some (List.cons_prefix_cons.1 first).1)

/-- Where the pattern does not begin in the text in front, that text is before it. -/
theorem cut_append {p front cs : List Char}
    (h : ∀ behind, behind <:+ front → behind ≠ [] → ¬ p <+: behind ++ cs) :
    cut p (front ++ cs) = (cut p cs).map fun split => (front ++ split.1, split.2) := by
  induction front with
  | nil => simp
  | cons c front ih =>
    have first : ¬ p <+: c :: (front ++ cs) := h (c :: front) (List.suffix_refl _) (by simp)
    rw [List.cons_append, cut, if_neg first, ih, Option.map_map]
    · rfl
    · exact fun behind part => h behind (part.trans (List.suffix_cons c front))

/-! ## Pieces -/

/-- The name of a dollar-quote tag. -/
def IsTag (name : List Char) : Prop :=
  name.all isNameChar = true ∧ name.head?.any Char.isDigit = false

/-- What stands at both ends of a dollar-quoted body. -/
def dollarQuote (name : List Char) : List Char := '$' :: name ++ ['$']

/-- What opens a region, and what closes it. -/
inductive Opening : List Char → List Char → Prop where
  | single : Opening ['\''] ['\'']
  | double : Opening ['"'] ['"']
  | lineComment : Opening ['-', '-'] ['\n']
  | blockComment : Opening ['/', '*'] ['*', '/']
  | dollar {name : List Char} (tag : IsTag name) : Opening (dollarQuote name) (dollarQuote name)

/-- A piece of SQL text. -/
inductive Piece where
  /-- A region that is closed. -/
  | closed (opener body closer : List Char)
  /-- A region that runs to the end of the text. -/
  | unclosed (opener body : List Char)
  | single (c : Char)
  deriving DecidableEq

def Piece.text : Piece → List Char
  | closed opener body closer => opener ++ body ++ closer
  | unclosed opener body => opener ++ body
  | single c => [c]

/-- A text falls into pieces: where a region opens it runs through the next occurrence of what
closes it, or to the end of the text where there is none, and every other character is single. -/
inductive Divides : List Char → List Piece → Prop where
  | nil : Divides [] []
  | closed {opener body closer cs : List Char} {ps : List Piece} (opens : Opening opener closer)
      (closes : Closes closer body) (rest : Divides cs ps) :
      Divides (opener ++ body ++ closer ++ cs) (.closed opener body closer :: ps)
  | unclosed {opener body closer : List Char} (opens : Opening opener closer)
      (never : ¬ closer <:+: body) : Divides (opener ++ body) [.unclosed opener body]
  | single {c : Char} {cs : List Char} {ps : List Piece}
      (plain : ∀ opener closer, Opening opener closer → ¬ opener <+: c :: cs)
      (rest : Divides cs ps) : Divides (c :: cs) (.single c :: ps)

/-- The byte offsets of the question marks that are pieces by themselves. -/
def marks (offset : Nat) : List Piece → List Nat
  | [] => []
  | p :: ps =>
    let rest := marks (offset + byteLength p.text) ps
    if p = .single '?' then offset :: rest else rest

/-! ## Existence and uniqueness -/

theorem Opening.ne_nil {opener closer : List Char} (h : Opening opener closer) : opener ≠ [] := by
  cases h <;> simp [dollarQuote]

theorem Opening.closer_ne_nil {opener closer : List Char} (h : Opening opener closer) :
    closer ≠ [] := by
  cases h <;> simp [dollarQuote]

/-- Names before a dollar sign are the same if what they begin is. -/
theorem name_unique {name other rest rest' : List Char} (h : name.all isNameChar = true)
    (g : other.all isNameChar = true) (same : name ++ '$' :: rest = other ++ '$' :: rest') :
    name = other := by
  have span (n r : List Char) (all : n.all isNameChar = true) :
      (n ++ '$' :: r).takeWhile isNameChar = n := by
    have stop : isNameChar '$' = false := by decide
    rw [List.takeWhile_append_of_pos (fun c hc => List.all_eq_true.1 all c hc)]
    simp [stop]
  rw [← span name rest h, same, span other rest' g]

theorem Opening.unique {opener closer opener' closer' cs : List Char} (h : Opening opener closer)
    (g : Opening opener' closer') (hp : opener <+: cs) (gp : opener' <+: cs) :
    opener = opener' ∧ closer = closer' := by
  obtain ⟨rest, rfl⟩ := hp
  obtain ⟨rest', same⟩ := gp
  cases h <;> cases g
  case dollar.dollar name tag other tag' =>
    have names : other ++ '$' :: rest' = name ++ '$' :: rest := by simpa [dollarQuote] using same
    obtain rfl := name_unique tag'.1 tag.1 names
    exact ⟨rfl, rfl⟩
  all_goals first | exact ⟨rfl, rfl⟩ | simp [dollarQuote] at same

/-- No region opens at an inert character. -/
theorem Opening.not_prefix_of_isInert {opener closer cs : List Char} {c : Char}
    (h : Opening opener closer) (inert : isInert c = true) : ¬ opener <+: c :: cs := by
  obtain ⟨-, single, double, minus, slash, -, dollar⟩ := isInert_iff.1 inert
  refine not_prefix_of_head h.ne_nil ?_
  intro first
  cases h with
  | single => exact single (Option.some.inj first).symm
  | double => exact double (Option.some.inj first).symm
  | lineComment => exact minus (Option.some.inj first).symm
  | blockComment => exact slash (Option.some.inj first).symm
  | dollar => exact dollar (Option.some.inj first).symm

/-- Inert text falls into single characters, whatever stands behind it. -/
theorem divides_append_of_all_isInert {front cs : List Char} {ps : List Piece}
    (inert : front.all isInert = true) (h : Divides cs ps) :
    Divides (front ++ cs) (front.map .single ++ ps) := by
  induction front with
  | nil => exact h
  | cons c front ih =>
    obtain ⟨first, rest⟩ : isInert c = true ∧ front.all isInert = true := by simpa using inert
    exact .single (fun _ _ opens => opens.not_prefix_of_isInert first) (ih rest)

theorem exists_divides (cs : List Char) : ∃ ps, Divides cs ps := by
  induction size : cs.length using Nat.strongRecOn generalizing cs with
  | ind n ih =>
    subst size
    cases cs with
    | nil => exact ⟨[], .nil⟩
    | cons c cs =>
      by_cases opens : ∃ opener closer, Opening opener closer ∧ opener <+: c :: cs
      · obtain ⟨opener, closer, opens, behind, same⟩ := opens
        rw [← same]
        cases found : cut closer behind with
        | none => exact ⟨_, .unclosed opens ((cut_eq_none_iff opens.closer_ne_nil).1 found)⟩
        | some split =>
          obtain ⟨body, rest⟩ := split
          obtain ⟨rfl, closes⟩ := (cut_eq_some_iff opens.closer_ne_nil).1 found
          have shorter : rest.length < (c :: cs).length := by
            have pos := List.length_pos_iff.2 opens.ne_nil
            simp only [← same, List.length_append]
            omega
          obtain ⟨ps, h⟩ := ih rest.length shorter rest rfl
          exact ⟨.closed opener body closer :: ps, by simpa using Divides.closed opens closes h⟩
      · obtain ⟨ps, h⟩ := ih cs.length (by simp) cs rfl
        exact ⟨_, .single (fun opener closer op before => opens ⟨opener, closer, op, before⟩) h⟩

/-- Where a region opens the first piece is that region. -/
theorem Divides.of_opening {opener closer behind : List Char} {ps : List Piece}
    (opens : Opening opener closer) (h : Divides (opener ++ behind) ps) :
    (∃ body rest qs, behind = body ++ closer ++ rest ∧ Closes closer body ∧
      ps = .closed opener body closer :: qs ∧ Divides rest qs) ∨
    (¬ closer <:+: behind ∧ ps = [.unclosed opener behind]) := by
  generalize same : opener ++ behind = cs at h
  cases h with
  | nil => exact absurd (List.append_eq_nil_iff.1 same).1 opens.ne_nil
  | @closed opener' body closer' cs qs opens' closes rest =>
    have whole : opener' ++ (body ++ closer' ++ cs) = opener ++ behind := by simp [same]
    obtain ⟨rfl, rfl⟩ := opens.unique opens' ⟨behind, rfl⟩ ⟨_, whole⟩
    obtain rfl := List.append_cancel_left whole
    exact .inl ⟨body, cs, qs, rfl, closes, rfl, rest⟩
  | @unclosed opener' body closer' opens' never =>
    obtain ⟨rfl, rfl⟩ := opens.unique opens' ⟨behind, rfl⟩ ⟨body, same.symm⟩
    obtain rfl := List.append_cancel_left same
    exact .inr ⟨never, rfl⟩
  | single plain => exact absurd ⟨behind, same⟩ (plain opener closer opens)

/-- Where no region opens the first piece is a character. -/
theorem Divides.of_single {c : Char} {cs : List Char} {ps : List Piece}
    (plain : ∀ opener closer, Opening opener closer → ¬ opener <+: c :: cs)
    (h : Divides (c :: cs) ps) : ∃ qs, ps = .single c :: qs ∧ Divides cs qs := by
  generalize same : c :: cs = text at h
  cases h with
  | nil => cases same
  | @closed opener body closer rest qs opens =>
    exact absurd ⟨body ++ closer ++ rest, by simp [same]⟩ (plain opener closer opens)
  | @unclosed opener body closer opens => exact absurd ⟨body, same.symm⟩ (plain opener closer opens)
  | single _ rest =>
    obtain ⟨rfl, rfl⟩ := List.cons.inj same
    exact ⟨_, rfl, rest⟩

theorem Divides.unique {cs : List Char} {ps qs : List Piece} (h : Divides cs ps)
    (g : Divides cs qs) : ps = qs := by
  induction h generalizing qs with
  | nil =>
    generalize same : ([] : List Char) = cs at g
    cases g with
    | nil => rfl
    | closed opens | unclosed opens => simp [opens.ne_nil] at same
    | single => cases same
  | @closed opener body closer cs ps opens closes rest ih =>
    rw [List.append_assoc, List.append_assoc, ← List.append_assoc body] at g
    have first := cut_of_closes opens.closer_ne_nil closes cs
    rcases g.of_opening opens with ⟨body', cs', qs, split, closes', rfl, rest'⟩ | ⟨never, -⟩
    · rw [(cut_eq_some_iff opens.closer_ne_nil).2 ⟨split, closes'⟩] at first
      obtain ⟨rfl, rfl⟩ := Prod.ext_iff.1 (Option.some.inj first)
      rw [ih rest']
    · rw [(cut_eq_none_iff opens.closer_ne_nil).2 never] at first
      cases first
  | @unclosed opener body closer opens never =>
    rcases g.of_opening opens with ⟨body', cs', qs, rfl, -⟩ | ⟨-, rfl⟩
    · exact absurd ⟨body', cs', rfl⟩ never
    · rfl
  | single plain _ ih =>
    obtain ⟨qs, rfl, rest⟩ := g.of_single plain
    rw [ih rest]

/-- Every text falls into pieces in exactly one way. -/
theorem existsUnique_divides (cs : List Char) : ∃! ps, Divides cs ps := by
  obtain ⟨ps, h⟩ := exists_divides cs
  exact ⟨ps, h, fun qs g => g.unique h⟩

/-- The pieces of a text make it up. -/
theorem Divides.text {cs : List Char} {ps : List Piece} (h : Divides cs ps) :
    ps.flatMap Piece.text = cs := by
  induction h with
  | nil => rfl
  | closed _ _ _ ih => rw [List.flatMap_cons, ih]; rfl
  | unclosed => simp [Piece.text]
  | single _ _ ih => rw [List.flatMap_cons, ih]; rfl

theorem mem_marks_iff {offset i : Nat} {ps : List Piece} :
    i ∈ marks offset ps ↔
      ∃ before after, ps = before ++ .single '?' :: after ∧
        i = offset + byteLength (before.flatMap Piece.text) := by
  induction ps generalizing offset with
  | nil => simp [marks]
  | cons p ps ih =>
    have later : (∃ before after, ps = before ++ .single '?' :: after ∧
          i = offset + byteLength p.text + byteLength (before.flatMap Piece.text)) ↔
        ∃ before after, p :: ps = p :: before ++ .single '?' :: after ∧
          i = offset + byteLength ((p :: before).flatMap Piece.text) := by
      simp [Nat.add_assoc]
    have whole : i ∈ marks offset (p :: ps) ↔
        p = .single '?' ∧ i = offset ∨ i ∈ marks (offset + byteLength p.text) ps := by
      by_cases mark : p = .single '?' <;> simp [marks, mark]
    rw [whole, ih, later]
    constructor
    · rintro (⟨rfl, rfl⟩ | ⟨before, after, same, place⟩)
      · exact ⟨[], ps, rfl, rfl⟩
      · exact ⟨p :: before, after, same, place⟩
    · rintro ⟨before, after, same, place⟩
      cases before with
      | nil =>
        obtain ⟨rfl, rfl⟩ := List.cons.inj same
        exact .inl ⟨rfl, place⟩
      | cons q before =>
        obtain ⟨rfl, rfl⟩ := List.cons.inj same
        exact .inr ⟨before, after, rfl, place⟩

/-! ## The scan of a region -/

namespace Mode

/-- Inside a region that ends with `closer`, of which the scan has just read `matched`. -/
inductive Seeks : Mode → List Char → List Char → Prop where
  | quoted (q : Char) : Seeks (.quoted q) [q] []
  | lineComment : Seeks .lineComment ['\n'] []
  | blockComment : Seeks (.blockComment false) ['*', '/'] []
  | star : Seeks (.blockComment true) ['*', '/'] ['*']
  | body {name matched missing : List Char} (tag : name.all isNameChar = true)
      (split : matched ++ missing = dollarQuote name) (ne : missing ≠ []) :
      Seeks (.body (dollarQuote name) missing) (dollarQuote name) matched

variable {m : Mode} {closer matched : List Char}

theorem Seeks.isLive (h : m.Seeks closer matched) : m.isLive = false := by
  cases h <;> rfl

/-- What has been read of the end of a region is not all of it. -/
theorem Seeks.cut_eq_none (h : m.Seeks closer matched) : cut closer matched = none := by
  have none {p cs : List Char} (shorter : cs.length < p.length) : cut p cs = none := by
    have ne : p ≠ [] := by
      rintro rfl
      simp at shorter
    exact (cut_eq_none_iff ne).2 fun inside => absurd inside.length_le (by omega)
  cases h with
  | quoted | lineComment | blockComment | star => exact none (by simp)
  | body tag split ne =>
    have pos := List.length_pos_iff.2 ne
    have length := congrArg List.length split
    rw [List.length_append] at length
    exact none (by omega)

/-- No delimiter begins in what has been read of one, where something else than the rest of it comes
next. -/
theorem not_dollarQuote_prefix {name matched missing behind cs : List Char} {c d : Char}
    (tag : name.all isNameChar = true) (split : matched ++ d :: missing = dollarQuote name)
    (other : c ≠ d) (part : behind <:+ matched) (ne : behind ≠ []) :
    ¬ dollarQuote name <+: behind ++ c :: cs := by
  cases matched with
  | nil => exact absurd (List.suffix_nil.1 part) ne
  | cons dollar read =>
    rcases List.suffix_cons_iff.1 part with rfl | inside
    · -- the delimiter that has been begun
      rw [← split, List.prefix_append_right_inj, List.cons_prefix_cons]
      exact fun same => other same.1.symm
    · -- inside a delimiter there is no dollar sign
      obtain ⟨e, behind, rfl⟩ := List.exists_cons_of_ne_nil ne
      refine not_prefix_of_head (by simp [dollarQuote]) ?_
      have rest : read ++ d :: missing = name ++ ['$'] := (List.cons.inj split).2
      have found : e ∈ read := inside.subset (by simp)
      have named : read <+: name := by
        have length := congrArg List.length rest
        simp only [List.length_append, List.length_cons, List.length_nil] at length
        exact List.prefix_of_prefix_length_le ⟨_, rest⟩ (List.prefix_append _ _) (by omega)
      have letter := List.all_eq_true.1 tag e (named.subset found)
      simpa [dollarQuote] using (ne_dollar_of_isNameChar letter).symm

/-- The scan has read the end of a region, or the last part of what it has read may be the beginning
of that end, which begins nowhere before. -/
def Advances (closer read : List Char) (m : Mode) : Prop :=
  (read = closer ∧ m = .plain) ∨
    ∃ skipped matched, read = skipped ++ matched ∧ m.Seeks closer matched ∧
      ∀ cs behind, behind <:+ skipped → behind ≠ [] → ¬ closer <+: behind ++ (matched ++ cs)

/-- A character that the end does not begin with is left behind. -/
theorem Seeks.advances_single {c : Char} (h : m.Seeks closer []) (ne : closer ≠ [])
    (other : closer.head? ≠ some c) : Advances closer [c] m := by
  refine .inr ⟨[c], [], rfl, h, fun cs behind part nonempty => ?_⟩
  obtain rfl : behind = [c] := by simpa [List.suffix_cons_iff, nonempty] using part
  exact not_prefix_of_head ne other

/-- The next character of a body completes its end, or it is a part of that end, or it begins it
anew, or it is left behind with what has been read of that end. -/
theorem advances_body {name matched missing : List Char} (tag : name.all isNameChar = true)
    (split : matched ++ missing = dollarQuote name) (ne : missing ≠ []) (c : Char) :
    Advances (dollarQuote name) (matched ++ [c])
      ((Mode.body (dollarQuote name) missing).step c) := by
  obtain ⟨d, missing, rfl⟩ := List.exists_cons_of_ne_nil ne
  by_cases same : c = d
  · subst same
    cases missing with
    | nil => exact .inl ⟨split, by simp [Mode.step, bodyStep]⟩
    | cons e missing =>
      refine .inr ⟨[], matched ++ [c], rfl, ?_, by simp⟩
      have next : (Mode.body (dollarQuote name) (c :: e :: missing)).step c =
          .body (dollarQuote name) (e :: missing) := by simp [Mode.step, bodyStep]
      rw [next]
      exact .body tag (by simpa using split) (by simp)
  have left (cs behind : List Char) (part : behind <:+ matched) (nonempty : behind ≠ []) :
      ¬ dollarQuote name <+: behind ++ c :: cs :=
    not_dollarQuote_prefix tag split same part nonempty
  by_cases dollar : c = '$'
  · subst dollar
    refine .inr ⟨matched, ['$'], rfl, ?_, left⟩
    have next : (Mode.body (dollarQuote name) (d :: missing)).step '$' =
        .body (dollarQuote name) (name ++ ['$']) := by
      simp [Mode.step, bodyStep, same, dollarQuote]
    rw [next]
    exact .body tag rfl (by simp)
  · refine .inr ⟨matched ++ [c], [], by simp, ?_, fun cs behind part nonempty => ?_⟩
    · have next : (Mode.body (dollarQuote name) (d :: missing)).step c =
          .body (dollarQuote name) (dollarQuote name) := by
        simp [Mode.step, bodyStep, same, dollar]
      rw [next]
      exact .body tag rfl (by simp [dollarQuote])
    · rcases List.suffix_concat_iff.1 part with rfl | ⟨read, rfl, inside⟩
      · exact absurd rfl nonempty
      · by_cases none : read = []
        · subst none
          have first : (dollarQuote name).head? ≠ some c := by
            simpa [dollarQuote] using Ne.symm dollar
          exact not_prefix_of_head (by simp [dollarQuote]) first
        · simpa using left cs read inside none

/-- A step inside a region comes nearer to its end. -/
theorem Seeks.step (h : m.Seeks closer matched) (c : Char) :
    Advances closer (matched ++ [c]) (m.step c) := by
  cases h with
  | quoted q =>
    by_cases same : c = q
    · exact .inl ⟨by rw [same]; rfl, if_pos same⟩
    · rw [Mode.step, if_neg same]
      exact (Seeks.quoted q).advances_single (by simp) (by simpa using Ne.symm same)
  | lineComment =>
    by_cases same : c = '\n'
    · exact .inl ⟨by rw [same]; rfl, if_pos same⟩
    · rw [Mode.step, if_neg same]
      exact Seeks.lineComment.advances_single (by simp) (by simpa using Ne.symm same)
  | blockComment =>
    by_cases same : c = '*'
    · subst same
      exact .inr ⟨[], ['*'], rfl, .star, by simp⟩
    · have next : (Mode.blockComment false).step c = .blockComment false := by
        simp [Mode.step, same]
      rw [next]
      exact Seeks.blockComment.advances_single (by simp) (by simpa using Ne.symm same)
  | star =>
    by_cases slash : c = '/'
    · subst slash
      exact .inl ⟨rfl, rfl⟩
    · by_cases same : c = '*'
      · subst same
        exact .inr ⟨['*'], ['*'], rfl, .star, by simp +contextual [List.suffix_cons_iff]⟩
      · have next : (Mode.blockComment true).step c = .blockComment false := by
          simp [Mode.step, same, slash]
        rw [next]
        refine .inr ⟨['*', c], [], rfl, .blockComment, fun cs behind part nonempty => ?_⟩
        rcases List.suffix_cons_iff.1 part with rfl | last
        · simp [Ne.symm slash]
        · obtain rfl : behind = [c] := by simpa [List.suffix_cons_iff, nonempty] using last
          exact not_prefix_of_head (by simp) (by simpa using Ne.symm same)
  | body tag split ne => exact advances_body tag split ne c

end Mode

/-- The scan of a region goes on behind the first occurrence of what closes it. -/
theorem offsetsFrom_of_seeks {m : Mode} {closer matched : List Char} (h : m.Seeks closer matched)
    (offset : Nat) (cs : List Char) :
    offsetsFrom m (offset + byteLength matched) cs =
      match cut closer (matched ++ cs) with
      | none => []
      | some (body, rest) => offsetsFrom .plain (offset + byteLength (body ++ closer)) rest := by
  induction cs generalizing m matched offset with
  | nil => rw [List.append_nil, h.cut_eq_none]; rfl
  | cons c cs ih =>
    have mark : isPlaceholder m c = false := by simp [isPlaceholder, h.isLive]
    have behind : offsetsFrom m (offset + byteLength matched) (c :: cs) =
        offsetsFrom (m.step c) (offset + byteLength (matched ++ [c])) cs := by
      simp [offsetsFrom, mark, Nat.add_assoc]
    have split : matched ++ c :: cs = matched ++ [c] ++ cs := by simp
    rw [behind, split]
    rcases h.step c with ⟨complete, next⟩ | ⟨skipped, matched', same, next, none⟩
    · have ne : closer ≠ [] := by rw [← complete]; simp
      have found : cut closer (closer ++ cs) = some ([], cs) := cut_of_closes ne (closes_nil ne) cs
      rw [complete, next, found]
      rfl
    · rw [same, List.append_assoc, cut_append (none cs), byteLength_append, ← Nat.add_assoc,
        ih next]
      cases cut closer (matched' ++ cs) with
      | none => rfl
      | some split => simp [Nat.add_assoc]

/-! ## The scan of live text -/

/-- While no dollar sign ends the tag the scan finds what it finds in live text. -/
theorem offsetsFrom_tag {name cs : List Char} (tag : IsTag name)
    (h : ∀ more rest, IsTag (name ++ more) → cs ≠ more ++ '$' :: rest) (offset : Nat) :
    offsetsFrom (.tag name) offset cs = offsetsFrom .plain offset cs := by
  induction cs generalizing name offset with
  | nil => rfl
  | cons c cs ih =>
    have mark : isPlaceholder (.tag name) c = isPlaceholder .plain c := rfl
    have other : c ≠ '$' := by
      rintro rfl
      exact h [] cs (by simpa using tag) rfl
    rw [offsetsFrom, offsetsFrom, mark, Mode.step_plain]
    by_cases joins : (isNameChar c && !(name.isEmpty && c.isDigit)) = true
    · have next : (Mode.tag name).step c = .tag (name ++ [c]) := by
        rw [Mode.step, if_neg other, if_pos joins]
      obtain ⟨letter, first⟩ := Bool.and_eq_true_iff.1 joins
      have longer : IsTag (name ++ [c]) := by
        refine ⟨by rw [List.all_append, tag.1]; simp [letter], ?_⟩
        cases name with
        | nil => simpa using first
        | cons d name => exact tag.2
      rw [next, Mode.enter_of_isNameChar letter, ih longer]
      intro more rest is_tag same
      exact h (c :: more) rest (by simpa using is_tag) (by rw [same]; rfl)
    · have next : (Mode.tag name).step c = .enter c := by
        rw [Mode.step, if_neg other, if_neg joins]
      rw [next]

/-- A character at which no region opens leaves the scan in live text. -/
theorem offsetsFrom_enter {c : Char} {cs : List Char}
    (plain : ∀ opener closer, Opening opener closer → ¬ opener <+: c :: cs) (offset : Nat) :
    offsetsFrom (.enter c) offset cs = offsetsFrom .plain offset cs := by
  unfold Mode.enter
  split
  · exact absurd (List.prefix_append _ _) (plain _ _ .single)
  · exact absurd (List.prefix_append _ _) (plain _ _ .double)
  · cases cs with
    | nil => rfl
    | cons d cs =>
      have other : d ≠ '-' := by
        rintro rfl
        exact plain _ _ .lineComment (List.prefix_append _ _)
      simp [offsetsFrom, isPlaceholder, Mode.isLive, Mode.step, other]
  · cases cs with
    | nil => rfl
    | cons d cs =>
      have other : d ≠ '*' := by
        rintro rfl
        exact plain _ _ .blockComment (List.prefix_append _ _)
      simp [offsetsFrom, isPlaceholder, Mode.isLive, Mode.step, other]
  · refine offsetsFrom_tag ⟨rfl, rfl⟩ ?_ offset
    rintro more rest is_tag rfl
    exact plain _ _ (.dollar is_tag) ⟨rest, by simp [dollarQuote]⟩
  · rfl

/-- An opener takes the scan into its region. -/
theorem Opening.seeks {opener closer : List Char} (h : Opening opener closer) :
    (Mode.plain.run opener).Seeks closer [] ∧ '?' ∉ opener := by
  cases h with
  | single | double => exact ⟨.quoted _, by decide⟩
  | lineComment => exact ⟨.lineComment, by decide⟩
  | blockComment => exact ⟨.blockComment, by decide⟩
  | @dollar name tag =>
    have read : (Mode.tag []).run name = .tag name :=
      Mode.run_of_extendsTag (by simp [Mode.extendsTag, tag.1, tag.2])
    have entered : Mode.plain.run (dollarQuote name) =
        .body (dollarQuote name) (dollarQuote name) := by
      rw [dollarQuote, List.cons_append, Mode.run_cons, Mode.run_append]
      change ((Mode.tag []).run name).run ['$'] = _
      rw [read]
      rfl
    refine ⟨entered ▸ .body tag.1 rfl (by simp [dollarQuote]), ?_⟩
    intro inside
    have found : '?' ∈ name := by simpa [dollarQuote] using inside
    exact absurd (List.all_eq_true.1 tag.1 _ found) (by decide)

/-- Behind an opener the scan goes on where its region ends. -/
theorem Opening.offsetsFrom {opener closer : List Char} (h : Opening opener closer) (offset : Nat)
    (cs : List Char) :
    offsetsFrom .plain offset (opener ++ cs) =
      match cut closer cs with
      | none => []
      | some (body, rest) =>
        offsetsFrom .plain (offset + byteLength (opener ++ body ++ closer)) rest := by
  obtain ⟨seeks, none⟩ := h.seeks
  have inside := offsetsFrom_of_seeks seeks (offset + byteLength opener) cs
  rw [byteLength_nil, Nat.add_zero, List.nil_append] at inside
  rw [offsetsFrom_append, offsetsFrom_of_notMem none, inside]
  cases cut closer cs with
  | none => rfl
  | some split => simp [Nat.add_assoc]

/-- The scan finds the single question marks. -/
theorem offsetsFrom_eq_marks {cs : List Char} {ps : List Piece} (h : Divides cs ps)
    (offset : Nat) : offsetsFrom .plain offset cs = marks offset ps := by
  induction h generalizing offset with
  | nil => rfl
  | @closed opener body closer cs ps opens closes rest ih =>
    have first := cut_of_closes opens.closer_ne_nil closes cs
    rw [List.append_assoc, List.append_assoc, ← List.append_assoc body, opens.offsetsFrom, first]
    exact ih _
  | unclosed opens never =>
    rw [opens.offsetsFrom, (cut_eq_none_iff opens.closer_ne_nil).2 never]
    rfl
  | @single c cs ps plain rest ih =>
    have mark : isPlaceholder .plain c = (c == '?') := rfl
    rw [offsetsFrom, marks, Mode.step_plain, offsetsFrom_enter plain, ih, mark]
    simp [Piece.text]

end DataMapper.Sql
