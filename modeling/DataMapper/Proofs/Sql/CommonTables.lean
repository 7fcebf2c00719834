import DataMapper.Proofs.Number.Digits
import DataMapper.Sql.StatementType
import Mathlib.Data.Bool.AllAny
import Mathlib.Data.List.Basic

/-!
# Statements behind common table expressions

The type of a statement with common table expressions is told from the text behind the last
parenthesis that ends an outermost pair. Behind the expressions that is the statement itself,
unless it has such a pair of its own: then only the text behind that pair counts.

## Main definitions

* `Balanced` — text with its parentheses in pairs and its literals closed.
* `WithClause` — a list of common table expressions.
* `IsBehindPairs` — the text behind the last outermost pair of parentheses.

## Main statements

* `StatementType.ofText_withClause_eq_iff` — when the type is that of the statement alone.
* `toInt_ofInt_foldl_nest` — in what texts 32 bits are enough to count parentheses.
-/

namespace DataMapper.Sql

open Text StatementType

/-! ## Nesting -/

/-- How many parentheses are open, and whether a literal is, behind one more character. -/
def nest : Int × Bool → Char → Int × Bool
  | (depth, true), c => (depth, c != '\'')
  | (depth, false), '(' => (depth + 1, false)
  | (depth, false), ')' => (depth - 1, false)
  | (depth, false), c => (depth, c == '\'')

theorem natAbs_nest_le (s : Int × Bool) (c : Char) : (nest s c).1.natAbs ≤ s.1.natAbs + 1 := by
  unfold nest
  split <;> dsimp only <;> omega

theorem natAbs_foldl_nest_le (s : Int × Bool) (cs : List Char) :
    (cs.foldl nest s).1.natAbs ≤ s.1.natAbs + cs.length := by
  induction cs generalizing s with
  | nil => exact Nat.le_refl _
  | cons c cs ih =>
    have step := natAbs_nest_le s c
    have rest := ih (nest s c)
    rw [List.foldl_cons, List.length_cons]
    omega

/-- Behind fewer than 2 ^ 31 characters 32 bits hold the depth. -/
theorem toInt_ofInt_foldl_nest {cs : List Char} (short : cs.length < 2 ^ 31) :
    (Int32.ofInt (cs.foldl nest (0, false)).1).toInt = (cs.foldl nest (0, false)).1 := by
  have near := natAbs_foldl_nest_le (0, false) cs
  apply Int32.toInt_ofInt_of_le <;> omega

/-- A parenthesis behind this text ends an outermost pair, where the text stands in this nesting. -/
def EndsPair (s : Int × Bool) (front : List Char) : Prop := front.foldl nest s = (1, false)

/-- Some parenthesis ends an outermost pair. -/
def HasPair (s : Int × Bool) (cs : List Char) : Prop :=
  ∃ front rest, cs = front ++ ')' :: rest ∧ EndsPair s front

/-- The text behind the last parenthesis that ends an outermost pair. -/
def IsBehindPairs (cs rest : List Char) : Prop :=
  ∃ front, cs = front ++ ')' :: rest ∧ EndsPair (0, false) front ∧ ¬ HasPair (0, false) rest

/-- Characters that neither open nor close anything. -/
def IsPassed (c : Char) : Prop := c ∉ ['(', ')', '\'']

instance : DecidablePred IsPassed := fun c => inferInstanceAs (Decidable (c ∉ ['(', ')', '\'']))

/-- Parentheses in pairs and closed literals. -/
inductive Balanced : List Char → Prop where
  | nil : Balanced []
  | char {c : Char} {cs : List Char} (passed : IsPassed c) (rest : Balanced cs) : Balanced (c :: cs)
  | group {inner cs : List Char} (inside : Balanced inner) (rest : Balanced cs) :
      Balanced ('(' :: inner ++ ')' :: cs)
  | quoted {text cs : List Char} (closed : '\'' ∉ text) (rest : Balanced cs) :
      Balanced ('\'' :: text ++ '\'' :: cs)

theorem Balanced.passed {text cs : List Char} (passed : ∀ c ∈ text, IsPassed c)
    (rest : Balanced cs) : Balanced (text ++ cs) := by
  induction text with
  | nil => exact rest
  | cons c text ih =>
    obtain ⟨first, others⟩ := List.forall_mem_cons.1 passed
    exact .char first (ih others)

/-! ## Common table expressions -/

/-- A name, the word `AS` and a body between parentheses, with blanks around them. -/
structure CommonTable where
  before : List Char
  name : List Char
  behindName : List Char
  word : List Char
  behindWord : List Char
  body : List Char
  after : List Char
  blank : ∀ c ∈ before ++ behindName ++ behindWord ++ after, isBlank c = true
  apart : behindName ≠ []
  named : name ≠ [] ∧ ∀ c ∈ name, isWordChar c = true
  spelled : word.map Char.toUpper = "AS".toList
  balanced : Balanced body

namespace CommonTable

/-- What stands in front of the body. -/
def lead (t : CommonTable) : List Char :=
  t.before ++ t.name ++ t.behindName ++ t.word ++ t.behindWord

def text (t : CommonTable) : List Char := t.lead ++ '(' :: t.body ++ ')' :: t.after

end CommonTable

/-- The word `WITH` and common table expressions with commas between them. -/
structure WithClause where
  word : List Char
  gap : Char
  first : CommonTable
  others : List CommonTable
  spelled : word.map Char.toUpper = "WITH".toList
  blank : isBlank gap = true

namespace WithClause

/-- Further expressions, each behind a comma. -/
def listed (ts : List CommonTable) : List Char := ts.flatMap fun t => ',' :: t.text

def text (c : WithClause) : List Char := c.word ++ c.gap :: c.first.text ++ listed c.others

end WithClause

/-! ## Blanks and letters -/

theorem not_isLower_of_isBlank {c : Char} (h : isBlank c = true) : ¬ c.isLower := by
  intro lower
  have bounds : (decide (97 ≤ c.val) && decide (c.val ≤ 122)) = true := lower
  simp only [Bool.and_eq_true, decide_eq_true_eq, UInt32.le_iff_toNat_le] at bounds
  change 97 ≤ c.toNat ∧ c.toNat ≤ 122 at bounds
  simp only [isBlank, Bool.or_eq_true, Bool.and_eq_true, decide_eq_true_eq, beq_iff_eq] at h
  omega

theorem not_isUpper_of_isBlank {c : Char} (h : isBlank c = true) : ¬ c.isUpper := by
  intro upper
  have bounds : decide (65 ≤ c.val ∧ c.val ≤ 90) = true := upper
  simp only [decide_eq_true_eq, UInt32.le_iff_toNat_le] at bounds
  change 65 ≤ c.toNat ∧ c.toNat ≤ 90 at bounds
  simp only [isBlank, Bool.or_eq_true, Bool.and_eq_true, decide_eq_true_eq, beq_iff_eq] at h
  omega

theorem isBlank_of_isUpper {c : Char} (h : c.toUpper.isUpper = true) : isBlank c = false := by
  by_contra blank
  rw [Bool.not_eq_false] at blank
  have same : c.toUpper = c := dif_neg fun lower => not_isLower_of_isBlank blank
    (Bool.and_eq_true_iff.2 ⟨decide_eq_true lower.1, decide_eq_true lower.2⟩)
  rw [same] at h
  exact not_isUpper_of_isBlank blank h

theorem isWordChar_of_isBlank {c : Char} (h : isBlank c = true) : isWordChar c = false := by
  refine Bool.eq_false_iff.2 fun word => ?_
  have cases : (((c.isUpper || c.isLower) || c.isDigit) || c == '_') = true := word
  simp only [Bool.or_eq_true, beq_iff_eq] at cases
  rcases cases with ((upper | lower) | digit) | rfl
  · exact not_isUpper_of_isBlank h upper
  · exact not_isLower_of_isBlank h lower
  · rw [isBlank_of_isDigit digit] at h
    cases h
  · revert h
    decide

theorem isPassed_of_isBlank {c : Char} (h : isBlank c = true) : IsPassed c := by
  intro mark
  have blanks : ∀ c ∈ ['(', ')', '\''], isBlank c = false := List.all_iff_forall_prop.1 (by decide)
  rw [blanks c mark] at h
  cases h

theorem isPassed_of_isWordChar {c : Char} (h : isWordChar c = true) : IsPassed c := by
  intro mark
  have words : ∀ c ∈ ['(', ')', '\''], isWordChar c = false :=
    List.all_iff_forall_prop.1 (by decide)
  rw [words c mark] at h
  cases h

theorem isPassed_of_toUpper {c : Char} (h : c.toUpper.isUpper = true) : IsPassed c := by
  intro mark
  have letters : ∀ c ∈ ['(', ')', '\''], c.toUpper.isUpper = false :=
    List.all_iff_forall_prop.1 (by decide)
  rw [letters c mark] at h
  cases h

/-- The letters of a word in whatever case. -/
theorem isUpper_of_spelled {word : List Char} {keyword : String}
    (spelled : word.map Char.toUpper = keyword.toList)
    (upper : keyword.toList.all Char.isUpper = true) {c : Char} (h : c ∈ word) :
    c.toUpper.isUpper = true :=
  List.all_eq_true.1 upper _ (spelled ▸ List.mem_map_of_mem h)

/-! ## Pairs of parentheses -/

section

variable {d : Int} {q : Bool} {found cs front rest : List Char} {c : Char}

theorem afterBodies_cons :
    afterBodies d q found (c :: cs) =
      afterBodies (nest (d, q) c).1 (nest (d, q) c).2
        (if c = ')' ∧ (d, q) = (1, false) then cs else found) cs := by
  cases q with
  | true => simp [afterBodies, nest]
  | false =>
    rw [afterBodies]
    by_cases opens : c = '('
    · simp [opens, nest]
    · by_cases closes : c = ')'
      · simp [closes, nest]
      · simp [opens, closes, nest]

theorem afterBodies_of_endsPair (ends : EndsPair (d, q) front) :
    afterBodies d q found (front ++ ')' :: rest) = afterBodies 0 false rest rest := by
  induction front generalizing d q found with
  | nil =>
    obtain ⟨rfl, rfl⟩ := Prod.mk.inj (ends : (d, q) = (1, false))
    rw [List.nil_append, afterBodies_cons, if_pos ⟨rfl, rfl⟩]
    rfl
  | cons c front ih =>
    rw [List.cons_append, afterBodies_cons]
    exact ih ends

theorem afterBodies_of_not_hasPair (none : ¬ HasPair (d, q) cs) :
    afterBodies d q found cs = found := by
  induction cs generalizing d q found with
  | nil => rfl
  | cons c cs ih =>
    have open' : ¬ (c = ')' ∧ (d, q) = (1, false)) := by
      rintro ⟨rfl, ends⟩
      exact none ⟨[], cs, rfl, ends⟩
    rw [afterBodies_cons, if_neg open']
    refine ih ?_
    rintro ⟨front, rest, rfl, ends⟩
    exact none ⟨c :: front, rest, rfl, ends⟩

theorem afterBodies_of_isBehindPairs (h : IsBehindPairs cs rest) :
    afterBodies 0 false found cs = rest := by
  obtain ⟨front, rfl, ends, last⟩ := h
  rw [afterBodies_of_endsPair ends, afterBodies_of_not_hasPair last]

/-- Of several outermost pairs one is the last. -/
theorem exists_isBehindPairs (h : HasPair (0, false) cs) : ∃ rest, IsBehindPairs cs rest := by
  induction length : cs.length using Nat.strongRecOn generalizing cs with
  | ind n ih =>
    obtain ⟨front, rest, rfl, ends⟩ := h
    by_cases more : HasPair (0, false) rest
    · have shorter : rest.length < n := by
        rw [← length]
        simp
        omega
      obtain ⟨last, front', rfl, ends', none⟩ := ih _ shorter more rfl
      refine ⟨last, front ++ ')' :: front', by simp, ?_, none⟩
      rw [EndsPair, List.foldl_append, show front.foldl nest (0, false) = (1, false) from ends]
      exact ends'
    · exact ⟨rest, front, rfl, ends, more⟩

/-! ## Bodies -/

theorem afterBodies_passed {text : List Char} (passed : ∀ c ∈ text, IsPassed c) :
    afterBodies d false found (text ++ cs) = afterBodies d false found cs := by
  induction text with
  | nil => rfl
  | cons c text ih =>
    obtain ⟨first, others⟩ := List.forall_mem_cons.1 passed
    simp only [IsPassed, List.mem_cons, List.not_mem_nil, or_false, not_or] at first
    rw [List.cons_append, afterBodies]
    simpa [first, beq_eq_false_iff_ne.2 first.2.2] using ih others

theorem afterBodies_quoted {text : List Char} (closed : '\'' ∉ text) :
    afterBodies d true found (text ++ '\'' :: cs) = afterBodies d false found cs := by
  induction text with
  | nil => simp [afterBodies]
  | cons c text ih =>
    obtain ⟨first, others⟩ := not_or.1 fun member => closed (List.mem_cons.2 member)
    rw [List.cons_append, afterBodies, if_pos rfl, bne_iff_ne.2 (Ne.symm first)]
    exact ih others

/-- Inside of a pair nothing ends an outermost one. -/
theorem afterBodies_balanced {body : List Char} (h : Balanced body) (inside : 0 < d) :
    afterBodies d false found (body ++ cs) = afterBodies d false found cs := by
  induction h generalizing d found cs with
  | nil => rfl
  | @char c body passed _ ih =>
    have alone : ∀ b ∈ [c], IsPassed b := fun b hb => List.mem_singleton.1 hb ▸ passed
    exact (afterBodies_passed alone).trans (ih inside)
  | @group inner body _ _ ihInner ih =>
    rw [List.append_assoc, List.cons_append, afterBodies_cons, List.cons_append]
    simp only [nest]
    rw [ihInner (by omega), afterBodies_cons, if_neg (by simp; omega)]
    simpa [nest] using ih inside
  | @quoted text body closed _ ih =>
    rw [List.append_assoc, List.cons_append, afterBodies_cons, List.cons_append]
    simp only [nest]
    simpa using (afterBodies_quoted closed).trans (ih inside)

end

namespace CommonTable

variable (t : CommonTable) {found cs : List Char}

theorem blank_after : ∀ c ∈ t.after, isBlank c = true :=
  fun c hc => t.blank c (by simp [hc])

theorem passed_lead : ∀ c ∈ t.lead, IsPassed c := by
  intro c hc
  simp only [lead, List.mem_append] at hc
  rcases hc with (((before | name) | behind) | word) | behind
  · exact isPassed_of_isBlank (t.blank c (by simp [before]))
  · exact isPassed_of_isWordChar (t.named.2 c name)
  · exact isPassed_of_isBlank (t.blank c (by simp [behind]))
  · exact isPassed_of_toUpper (isUpper_of_spelled t.spelled (by decide) word)
  · exact isPassed_of_isBlank (t.blank c (by simp [behind]))

/-- The body of an expression is an outermost pair. -/
theorem afterBodies_text :
    afterBodies 0 false found (t.text ++ cs) = afterBodies 0 false (t.after ++ cs) cs := by
  have passed : ∀ c ∈ t.after, IsPassed c := fun c hc => isPassed_of_isBlank (t.blank_after c hc)
  calc afterBodies 0 false found (t.text ++ cs)
      = afterBodies 0 false found (t.lead ++ '(' :: (t.body ++ ')' :: (t.after ++ cs))) := by
        simp [text]
    _ = afterBodies 0 false found ('(' :: (t.body ++ ')' :: (t.after ++ cs))) :=
        afterBodies_passed t.passed_lead
    _ = afterBodies 1 false found (')' :: (t.after ++ cs)) := by
        rw [afterBodies_cons]
        exact afterBodies_balanced t.balanced Int.one_pos
    _ = afterBodies 0 false (t.after ++ cs) (t.after ++ cs) := by
        rw [afterBodies_cons, if_pos ⟨rfl, rfl⟩]
        rfl
    _ = afterBodies 0 false (t.after ++ cs) cs := afterBodies_passed passed

end CommonTable

namespace WithClause

/-- Behind all expressions, blanks and the statement have been found. -/
theorem afterBodies_listed (t : CommonTable) (ts : List CommonTable) (found main : List Char) :
    ∃ blanks, (∀ c ∈ blanks, isBlank c = true) ∧
      afterBodies 0 false found (t.text ++ listed ts ++ main) =
        afterBodies 0 false (blanks ++ main) main := by
  induction ts generalizing t found with
  | nil => exact ⟨t.after, t.blank_after, by simpa [listed] using t.afterBodies_text⟩
  | cons u ts ih =>
    obtain ⟨blanks, blank, found'⟩ := ih u (t.after ++ (listed (u :: ts) ++ main))
    refine ⟨blanks, blank, ?_⟩
    have comma : ∀ c ∈ [','], IsPassed c := List.all_iff_forall_prop.1 (by decide)
    calc afterBodies 0 false found (t.text ++ listed (u :: ts) ++ main)
        = afterBodies 0 false (t.after ++ (listed (u :: ts) ++ main))
            ([','] ++ (u.text ++ listed ts ++ main)) := by
          rw [List.append_assoc, t.afterBodies_text]
          simp [listed]
      _ = afterBodies 0 false (t.after ++ (listed (u :: ts) ++ main))
            (u.text ++ listed ts ++ main) := afterBodies_passed comma
      _ = afterBodies 0 false (blanks ++ main) main := found'

variable (c : WithClause)

theorem afterBodies_text (found main : List Char) :
    ∃ blanks, (∀ b ∈ blanks, isBlank b = true) ∧
      afterBodies 0 false found (c.text ++ main) = afterBodies 0 false (blanks ++ main) main := by
  obtain ⟨blanks, blank, behind⟩ := afterBodies_listed c.first c.others found main
  refine ⟨blanks, blank, ?_⟩
  have passed : ∀ b ∈ c.word ++ [c.gap], IsPassed b := by
    intro b hb
    rcases List.mem_append.1 hb with word | gap
    · exact isPassed_of_toUpper (isUpper_of_spelled c.spelled (by decide) word)
    · exact isPassed_of_isBlank (List.mem_singleton.1 gap ▸ c.blank)
  calc afterBodies 0 false found (c.text ++ main)
      = afterBodies 0 false found
          ((c.word ++ [c.gap]) ++ (c.first.text ++ listed c.others ++ main)) := by simp [text]
    _ = afterBodies 0 false found (c.first.text ++ listed c.others ++ main) :=
        afterBodies_passed passed
    _ = afterBodies 0 false (blanks ++ main) main := behind

end WithClause

/-! ## Keywords -/

namespace StatementType

section

variable {cs : List Char} {c : Char} {keyword other : String}

/-- Where no comment and no pair begins, only blanks are passed over. -/
theorem skipLead_cons (line : ¬ ['-', '-'] <+: c :: cs) (block : ¬ ['/', '*'] <+: c :: cs)
    (pair : c ≠ '(') : skipLead (c :: cs) = if isBlank c then skipLead cs else c :: cs := by
  rw [skipLead.eq_def]
  split
  · next rest same => exact absurd ⟨rest, same.symm⟩ line
  · next rest same => exact absurd ⟨rest, same.symm⟩ block
  · next same => exact absurd (List.cons.inj same).1 pair
  · next same =>
    obtain ⟨rfl, rfl⟩ := List.cons.inj same
    rfl
  · next same => cases same

theorem skipLead_of_isUpper (h : c.toUpper.isUpper = true) : skipLead (c :: cs) = c :: cs := by
  have letters : ∀ c ∈ ['-', '/', '('], c.toUpper.isUpper = false :=
    List.all_iff_forall_prop.1 (by decide)
  have apart : c ∉ ['-', '/', '('] := fun mark => by
    rw [letters c mark] at h
    cases h
  simp only [List.mem_cons, List.not_mem_nil, or_false, not_or] at apart
  rw [skipLead_cons (by simp [Ne.symm apart.1]) (by simp [Ne.symm apart.2.1]) apart.2.2,
    isBlank_of_isUpper h, if_neg (by decide)]

theorem exists_head_of_beginsWith {k : Char} {ks : List Char} (spelled : keyword.toList = k :: ks)
    (h : beginsWith keyword cs = true) : ∃ c rest, cs = c :: rest ∧ c.toUpper = k := by
  have begun := beq_iff_eq.1 (Bool.and_eq_true_iff.1 h).1
  rw [spelled] at begun
  cases cs with
  | nil => simp at begun
  | cons c rest =>
    refine ⟨c, rest, rfl, ?_⟩
    have long : keyword.length = ks.length + 1 := by
      rw [← String.length_toList, spelled, List.length_cons]
    rw [long, List.take_succ_cons, List.map_cons] at begun
    exact (List.cons.inj begun).1

/-- A text begins with one keyword of a length only. -/
theorem beginsWith_inj (same : keyword.length = other.length) (h : beginsWith keyword cs = true)
    (h' : beginsWith other cs = true) : keyword = other := by
  have begun := beq_iff_eq.1 (Bool.and_eq_true_iff.1 h).1
  have begun' := beq_iff_eq.1 (Bool.and_eq_true_iff.1 h').1
  rw [same] at begun
  exact String.toList_inj.1 (begun.symm.trans begun')

end

/-- The statements that read rows or change them. -/
def rowKeywords : List (String × StatementType) :=
  [("SELECT", select), ("INSERT", insert), ("UPDATE", update), ("DELETE", delete)]

variable {main : List Char} {keyword : String} {type : StatementType}

theorem ofKeyword?_of_beginsWith (known : (keyword, type) ∈ rowKeywords)
    (h : beginsWith keyword main = true) : ofKeyword? main = some type := by
  have other (k : String) (same : keyword.length = k.length) (ne : keyword ≠ k) :
      beginsWith k main = false :=
    Bool.eq_false_iff.2 fun h' => ne (beginsWith_inj same h h')
  simp only [rowKeywords, List.mem_cons, Prod.mk.injEq, List.not_mem_nil, or_false] at known
  unfold ofKeyword? keywords
  rcases known with ⟨rfl, rfl⟩ | ⟨rfl, rfl⟩ | ⟨rfl, rfl⟩ | ⟨rfl, rfl⟩
  · simp only [List.find?, h, Option.map_some]
  · simp only [List.find?, h, other "SELECT" (by decide) (by decide), Option.map_some]
  · simp only [List.find?, h, other "SELECT" (by decide) (by decide),
      other "INSERT" (by decide) (by decide), Option.map_some]
  · simp only [List.find?, h, other "SELECT" (by decide) (by decide),
      other "INSERT" (by decide) (by decide), other "UPDATE" (by decide) (by decide),
      Option.map_some]

theorem exists_letter (known : (keyword, type) ∈ rowKeywords)
    (h : beginsWith keyword main = true) :
    ∃ c rest, main = c :: rest ∧ c.toUpper.isUpper = true ∧ c.toUpper ≠ 'W' := by
  have letters : ∀ k ∈ rowKeywords, (['S', 'I', 'U', 'D'].any fun c =>
      decide (k.1.toList = c :: k.1.toList.tail)) = true := by decide
  obtain ⟨k, upper, spelled⟩ := List.any_iff_exists_prop.1 (letters _ known)
  obtain ⟨c, rest, rfl, same⟩ := exists_head_of_beginsWith spelled h
  refine ⟨c, rest, rfl, ?_⟩
  rw [same]
  have apart : ∀ k ∈ ['S', 'I', 'U', 'D'], k.isUpper = true ∧ k ≠ 'W' :=
    List.all_iff_forall_prop.1 (by decide)
  exact apart k upper

theorem ofChars_of_beginsWith (known : (keyword, type) ∈ rowKeywords)
    (h : beginsWith keyword main = true) : ofChars main = type := by
  obtain ⟨c, rest, rfl, upper, other⟩ := exists_letter known h
  have notWith : beginsWith "WITH" (c :: rest) = false := by
    refine Bool.eq_false_iff.2 fun begun => other ?_
    obtain ⟨c', rest', same, upper'⟩ := exists_head_of_beginsWith (k := 'W') rfl begun
    rw [(List.cons.inj same).1]
    exact upper'
  simp only [ofChars, skipLead_of_isUpper upper, notWith, ofKeyword?_of_beginsWith known h]
  rfl

/-- What the text behind the bodies says about the type. -/
def rowType (rest : List Char) : StatementType :=
  match ofKeyword? (trimLeft rest) with
  | some insert => insert
  | some update => update
  | some delete => delete
  | _ => select

theorem rowType_of_beginsWith (known : (keyword, type) ∈ rowKeywords)
    (h : beginsWith keyword main = true) {blanks : List Char}
    (blank : ∀ c ∈ blanks, isBlank c = true) : rowType (blanks ++ main) = type := by
  obtain ⟨c, rest, rfl, upper, -⟩ := exists_letter known h
  have trimmed : trimLeft (blanks ++ c :: rest) = c :: rest := by
    rw [trimLeft, List.dropWhile_append_of_pos blank, List.dropWhile_cons_of_neg]
    simp [isBlank_of_isUpper upper]
  rw [rowType, trimmed, ofKeyword?_of_beginsWith known h]
  simp only [rowKeywords, List.mem_cons, Prod.mk.injEq, List.not_mem_nil, or_false] at known
  rcases known with ⟨-, rfl⟩ | ⟨-, rfl⟩ | ⟨-, rfl⟩ | ⟨-, rfl⟩ <;> rfl

/-- The text tells the type of a statement if it begins with the keyword of that type; whatever
changes no rows reads them. -/
theorem rowType_eq_iff (known : (keyword, type) ∈ rowKeywords) (rest : List Char) :
    rowType rest = type ↔
      ∀ change ∈ [insert, update, delete],
        ofKeyword? (trimLeft rest) = some change ↔ type = change := by
  unfold rowType
  simp only [rowKeywords, List.mem_cons, Prod.mk.injEq, List.not_mem_nil, or_false] at known
  cases ofKeyword? (trimLeft rest) with
  | none => rcases known with ⟨-, rfl⟩ | ⟨-, rfl⟩ | ⟨-, rfl⟩ | ⟨-, rfl⟩ <;> simp
  | some found =>
    cases found <;> rcases known with ⟨-, rfl⟩ | ⟨-, rfl⟩ | ⟨-, rfl⟩ | ⟨-, rfl⟩ <;> simp

/-- The type is told from what stands behind the expressions. -/
theorem ofChars_withClause (c : WithClause) (main : List Char) :
    ∃ blanks, (∀ b ∈ blanks, isBlank b = true) ∧
      ofChars (c.text ++ main) = rowType (afterBodies 0 false (blanks ++ main) main) := by
  obtain ⟨blanks, blank, behind⟩ := c.afterBodies_text (c.text ++ main) main
  refine ⟨blanks, blank, ?_⟩
  have length : c.word.length = 4 := by simpa using congrArg List.length c.spelled
  obtain ⟨w, word, written⟩ := List.exists_cons_of_length_eq_add_one (n := 3) length
  have upper : w.toUpper.isUpper = true :=
    isUpper_of_spelled c.spelled (by decide) (by simp [written])
  have lead : skipLead (c.text ++ main) = c.text ++ main := by
    simp only [WithClause.text, written, List.cons_append]
    exact skipLead_of_isUpper upper
  have begun : beginsWith "WITH" (c.text ++ main) = true := by
    have text : c.text ++ main =
        c.word ++ c.gap :: (c.first.text ++ WithClause.listed c.others ++ main) := by
      simp [WithClause.text]
    have four : "WITH".length = c.word.length := length.symm
    simp [beginsWith, text, four, c.spelled, isWordChar_of_isBlank c.blank]
  simp only [ofChars, lead, begun, if_true]
  rw [← behind]
  rfl

end StatementType

/-! ## The type of the statement -/

/-- Behind common table expressions a statement has its own type exactly if it has no outermost pair
of parentheses outside of literals, or the text behind the last such pair is taken for a statement
of that type. -/
theorem StatementType.ofText_withClause_eq_iff (c : WithClause) {main keyword : String}
    {type : StatementType} (known : (keyword, type) ∈ rowKeywords)
    (begins : beginsWith keyword main.toList = true) :
    ofText (String.ofList c.text ++ main) = ofText main ↔
      ∀ rest, IsBehindPairs main.toList rest → ∀ change ∈ [insert, update, delete],
        ofKeyword? (trimLeft rest) = some change ↔ ofText main = change := by
  obtain ⟨blanks, blank, told⟩ := ofChars_withClause c main.toList
  have alone : ofText main = type := ofChars_of_beginsWith known begins
  have behind : ofText (String.ofList c.text ++ main) =
      rowType (afterBodies 0 false (blanks ++ main.toList) main.toList) := by
    rw [ofText, String.toList_append, String.toList_ofList, told]
  rw [behind, alone]
  constructor
  · intro same rest last
    rw [afterBodies_of_isBehindPairs last] at same
    exact (rowType_eq_iff known rest).1 same
  · intro agrees
    by_cases paired : HasPair (0, false) main.toList
    · obtain ⟨rest, last⟩ := exists_isBehindPairs paired
      rw [afterBodies_of_isBehindPairs last]
      exact (rowType_eq_iff known rest).2 (agrees rest last)
    · rw [afterBodies_of_not_hasPair paired]
      exact rowType_of_beginsWith known begins blank

/-- `WITH` and one expression. -/
def oneTable (body : List Char) (balanced : Balanced body) : WithClause where
  word := "WITH".toList
  gap := ' '
  first :=
    { before := [], name := ['a'], behindName := [' '], word := "AS".toList, behindWord := [' ']
      body, after := [' ']
      blank := List.all_iff_forall_prop.1 (by decide)
      apart := by decide
      named := ⟨by decide, List.all_iff_forall_prop.1 (by decide)⟩
      spelled := by decide
      balanced }
  others := []
  spelled := by decide
  blank := by decide

theorem balanced_literal : Balanced "SELECT ')'".toList :=
  show Balanced ("SELECT ".toList ++ ('\'' :: [')'] ++ '\'' :: [])) from
    .passed (List.all_iff_forall_prop.1 (by decide)) (.quoted (by decide) .nil)

theorem balanced_number : Balanced "SELECT 1".toList :=
  show Balanced ("SELECT 1".toList ++ []) from
    .passed (List.all_iff_forall_prop.1 (by decide)) .nil

/-- A parenthesis in a literal ends nothing, and behind the pair of the statement itself no rows are
changed. -/
theorem StatementType.ofText_withClause_literal :
    let c := oneTable _ balanced_literal
    String.ofList c.text ++ "SELECT max(id) FROM a" =
        "WITH a AS (SELECT ')') SELECT max(id) FROM a" ∧
      beginsWith "SELECT" "SELECT max(id) FROM a".toList = true ∧
      ofText (String.ofList c.text ++ "SELECT max(id) FROM a") =
        ofText "SELECT max(id) FROM a" := by
  intro c
  have selects : ("SELECT", select) ∈ rowKeywords := by decide
  have begins : beginsWith "SELECT" "SELECT max(id) FROM a".toList = true := by decide
  refine ⟨by decide, begins, (ofText_withClause_eq_iff c selects begins).2 ?_⟩
  rintro rest ⟨front, split, -⟩
  have only : "SELECT max(id".toList ++ ')' :: " FROM a".toList = front ++ ')' :: rest := split
  rw [List.append_cons_inj_of_notMem (by decide) (by decide)] at only
  rw [← only.2.2, show ofText "SELECT max(id) FROM a" = select from
    ofChars_of_beginsWith selects begins]
  decide

/-- A pair of parentheses in a statement behind common table expressions hides its type. -/
theorem StatementType.not_ofText_withClause_values :
    let c := oneTable _ balanced_number
    let main := "DELETE FROM t WHERE id IN (1)"
    String.ofList c.text ++ main = "WITH a AS (SELECT 1) DELETE FROM t WHERE id IN (1)" ∧
      beginsWith "DELETE" main.toList = true ∧ ofText main = delete ∧
      ofText (String.ofList c.text ++ main) = select := by
  refine ⟨by decide, by decide, by decide +kernel, by decide +kernel⟩

end DataMapper.Sql
