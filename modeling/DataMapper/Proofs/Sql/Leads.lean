import DataMapper.Proofs.Sql.CommonTables
import DataMapper.Proofs.Sql.Division
import Mathlib.Data.List.Forall2

/-!
# What stands in front of a statement

Blanks, comments and opening parentheses in front of a statement say nothing about its type. They
are taken away in passes, each of which takes blanks and then one comment or one parenthesis, until
a pass takes nothing. The type of what is left does not depend on the case of letters.

## Main definitions

* `LeadPiece` — a blank, a closed comment or an opening parenthesis.
* `pass`, `Passes` — one pass, and a run of passes to the last one.
* `SameButCase` — texts that differ in the case of letters only.

## Main statements

* `StatementType.exists_passes` — the passes come to an end.
* `StatementType.ofText_lead` — what neither a lead nor the case of letters changes.
-/

namespace DataMapper.Sql

open Text StatementType

/-! ## Leads -/

/-- What opens a comment, and what closes it. -/
inductive IsComment : List Char → List Char → Prop where
  | line : IsComment ['-', '-'] ['\n']
  | block : IsComment ['/', '*'] ['*', '/']

/-- A piece of what may stand in front of a statement. -/
inductive LeadPiece where
  | blank (c : Char) (blank : isBlank c = true)
  /-- A comment that is closed where its closing is found first. -/
  | comment {opener closer : List Char} (kind : IsComment opener closer) (body : List Char)
    (closes : Closes closer body)
  | parenthesis

def LeadPiece.text : LeadPiece → List Char
  | blank c _ => [c]
  | @comment opener closer _ body _ => opener ++ body ++ closer
  | parenthesis => ['(']

def leadText (pieces : List LeadPiece) : List Char := pieces.flatMap LeadPiece.text

/-! ## Passes -/

/-- What a pass leaves, and whether another one follows it. -/
inductive Pass where
  | last (rest : List Char)
  | more (rest : List Char)

/-- The text behind a comment; of one that is never closed nothing is left. -/
def Pass.behind (closer body : List Char) : Pass :=
  match cut closer body with
  | some (_, rest) => more rest
  | none => last []

/-- Take away blanks, and then one comment or one parenthesis. -/
def pass (cs : List Char) : Pass :=
  let s := trimLeft cs
  if ['-', '-'] <+: s then .behind ['\n'] (s.drop 2)
  else if ['/', '*'] <+: s then .behind ['*', '/'] (s.drop 2)
  else if ['('] <+: s then .more (s.drop 1)
  else if s.length = cs.length then .last s
  else .more s

/-- So many passes leave the rest of a text, the last of them taking nothing away. -/
inductive Passes : Nat → List Char → List Char → Prop where
  | last {cs rest : List Char} (h : pass cs = .last rest) : Passes 1 cs rest
  | more {cs next rest : List Char} {n : Nat} (h : pass cs = .more next)
      (others : Passes n next rest) : Passes (n + 1) cs rest

namespace StatementType

variable {cs next rest opener closer : List Char}

theorem afterLine_eq_cut (cs : List Char) :
    afterLine cs = ((cut ['\n'] cs).map Prod.snd).getD [] := by
  induction cs with
  | nil => rfl
  | cons c cs ih =>
    rw [afterLine, cut]
    by_cases feed : c = '\n'
    · simp [feed]
    · rw [if_neg feed, if_neg (by simpa using Ne.symm feed), ih, Option.map_map]
      rfl

theorem afterComment_eq_cut (cs : List Char) :
    afterComment cs = ((cut ['*', '/'] cs).map Prod.snd).getD [] := by
  fun_induction afterComment cs with
  | case1 => rfl
  | case2 cs => simp [cut]
  | case3 c cs other ih =>
    have first : ¬ ['*', '/'] <+: c :: cs := by
      rintro ⟨rest, same⟩
      obtain ⟨rfl, rfl⟩ := List.cons.inj same
      exact other rest rfl rfl
    rw [cut, if_neg first, ih, Option.map_map]
    rfl

theorem skipLead_comment (kind : IsComment opener closer) (body : List Char) :
    skipLead (opener ++ body) = skipLead (((cut closer body).map Prod.snd).getD []) := by
  cases kind with
  | line =>
    rw [← afterLine_eq_cut, skipLead.eq_def]
    rfl
  | block =>
    rw [← afterComment_eq_cut, skipLead.eq_def]
    rfl

theorem skipLead_nil : skipLead [] = [] := by rw [skipLead.eq_def]

theorem skipLead_parenthesis (cs : List Char) : skipLead ('(' :: cs) = skipLead cs := by
  rw [skipLead.eq_def]
  rfl

theorem skipLead_blank {c : Char} (blank : isBlank c = true) (cs : List Char) :
    skipLead (c :: cs) = skipLead cs := by
  have marks : ∀ m ∈ ['-', '/', '('], m ≠ c := by
    rintro m mark rfl
    have : ∀ m ∈ ['-', '/', '('], isBlank m = false := List.all_iff_forall_prop.1 (by decide)
    rw [this m mark] at blank
    cases blank
  rw [skipLead_cons, if_pos blank]
  · exact not_prefix_of_head (by simp) (by simpa using marks '-' (by decide))
  · exact not_prefix_of_head (by simp) (by simpa using marks '/' (by decide))
  · exact (marks '(' (by decide)).symm

theorem skipLead_trimLeft (cs : List Char) : skipLead (trimLeft cs) = skipLead cs := by
  induction cs with
  | nil => rfl
  | cons c cs ih =>
    by_cases blank : isBlank c = true
    · rw [skipLead_blank blank, ← ih, trimLeft, List.dropWhile_cons_of_pos blank, trimLeft]
    · rw [trimLeft, List.dropWhile_cons_of_neg blank]

theorem length_trimLeft_le (cs : List Char) : (trimLeft cs).length ≤ cs.length :=
  (List.dropWhile_suffix isBlank).length_le

/-- What the first character that is no blank begins, and what the pass makes of it. -/
theorem pass_cases (cs : List Char) :
    (∃ opener closer body, IsComment opener closer ∧ trimLeft cs = opener ++ body ∧
      pass cs = .behind closer body) ∨
    (∃ rest, trimLeft cs = '(' :: rest ∧ pass cs = .more rest) ∨
    (skipLead cs = trimLeft cs ∧
      pass cs = if (trimLeft cs).length = cs.length then .last (trimLeft cs)
        else .more (trimLeft cs)) := by
  unfold pass
  by_cases line : ['-', '-'] <+: trimLeft cs
  · obtain ⟨body, same⟩ := line
    refine .inl ⟨_, _, body, .line, same.symm, ?_⟩
    rw [← same, if_pos (List.prefix_append _ _)]
    rfl
  by_cases block : ['/', '*'] <+: trimLeft cs
  · obtain ⟨body, same⟩ := block
    refine .inl ⟨_, _, body, .block, same.symm, ?_⟩
    rw [if_neg line, ← same, if_pos (List.prefix_append _ _)]
    rfl
  by_cases open_ : ['('] <+: trimLeft cs
  · obtain ⟨rest, same⟩ := open_
    refine .inr (.inl ⟨rest, same.symm, ?_⟩)
    rw [if_neg line, if_neg block, ← same, if_pos (List.prefix_append _ _)]
    rfl
  -- What begins here is not taken away, so that the lead has come to its end.
  · refine .inr (.inr ⟨?_, by rw [if_neg line, if_neg block, if_neg open_]⟩)
    rw [← skipLead_trimLeft]
    cases left : trimLeft cs with
    | nil => exact skipLead_nil
    | cons c rest =>
      rw [left] at line block open_
      have solid : isBlank c = false := by
        have head := List.head?_dropWhile_not isBlank cs
        rwa [← trimLeft, left] at head
      have pair : c ≠ '(' := by
        rintro rfl
        exact open_ (List.prefix_append ['('] rest)
      rw [skipLead_cons line block pair, solid, if_neg (by decide)]

/-- The last pass leaves what is behind the lead. -/
theorem skipLead_of_last (h : pass cs = .last rest) : skipLead cs = rest := by
  obtain ⟨opener, closer, body, kind, text, same⟩ | ⟨more, -, same⟩ | ⟨text, same⟩ := pass_cases cs
  · rw [h, Pass.behind] at same
    rw [← skipLead_trimLeft, text, skipLead_comment kind]
    split at same
    · cases same
    · next none =>
      cases same
      rw [none, Option.map_none, Option.getD_none, skipLead_nil]
  · rw [h] at same
    cases same
  · rw [h] at same
    split at same
    · cases same
      exact text
    · cases same

/-- A pass before the last one takes something away and leaves the rest of the lead. -/
theorem skipLead_of_more (h : pass cs = .more next) :
    skipLead cs = skipLead next ∧ next.length < cs.length := by
  have shorter := length_trimLeft_le cs
  obtain ⟨opener, closer, body, kind, text, same⟩ | ⟨more, text, same⟩ | ⟨text, same⟩ :=
    pass_cases cs
  · rw [h, Pass.behind] at same
    split at same
    · next inner rest found =>
      cases same
      rw [← skipLead_trimLeft, text, skipLead_comment kind, found]
      refine ⟨rfl, ?_⟩
      have ne : closer ≠ [] := by cases kind <;> simp
      obtain ⟨rfl, -⟩ := (cut_eq_some_iff ne).1 found
      have := List.length_pos_iff.2 ne
      simp only [text, List.length_append] at shorter
      omega
    · cases same
  · rw [h] at same
    cases same
    rw [← skipLead_trimLeft, text, skipLead_parenthesis]
    refine ⟨rfl, ?_⟩
    simp only [text, List.length_cons] at shorter
    omega
  · rw [h] at same
    split at same
    · cases same
    · cases same
      exact ⟨(skipLead_trimLeft cs).symm, by omega⟩

/-- Passes take away the whole lead. -/
theorem skipLead_of_passes {n : Nat} (h : Passes n cs rest) : skipLead cs = rest := by
  induction h with
  | last h => exact skipLead_of_last h
  | more h _ ih => rw [(skipLead_of_more h).1, ih]

/-- The passes come to an end, after no more of them than there are characters and one. -/
theorem exists_passes (cs : List Char) : ∃ n ≤ cs.length + 1, Passes n cs (skipLead cs) := by
  induction length : cs.length using Nat.strongRecOn generalizing cs with
  | ind n ih =>
    match h : pass cs with
    | .last rest => exact ⟨1, by omega, skipLead_of_last h ▸ .last h⟩
    | .more next =>
      obtain ⟨same, shorter⟩ := skipLead_of_more h
      obtain ⟨k, few, passes⟩ := ih next.length (by omega) next rfl
      exact ⟨k + 1, by omega, same ▸ .more h passes⟩

/-- A piece of a lead is passed over. -/
theorem skipLead_piece (piece : LeadPiece) (cs : List Char) :
    skipLead (piece.text ++ cs) = skipLead cs := by
  cases piece with
  | blank c blank => exact skipLead_blank blank cs
  | @comment opener closer kind body closes =>
    have ne : closer ≠ [] := by cases kind <;> simp
    have text : opener ++ body ++ closer ++ cs = opener ++ (body ++ closer ++ cs) := by simp
    rw [LeadPiece.text, text, skipLead_comment kind, cut_of_closes ne closes]
    rfl
  | parenthesis => exact skipLead_parenthesis cs

theorem skipLead_leadText (pieces : List LeadPiece) (cs : List Char) :
    skipLead (leadText pieces ++ cs) = skipLead cs := by
  induction pieces with
  | nil => rfl
  | cons piece pieces ih =>
    rw [leadText, List.flatMap_cons, List.append_assoc, skipLead_piece]
    exact ih

end StatementType

/-! ## The case of letters -/

/-- The letters of the two texts are the same but for their case, and all else is the same. -/
def SameButCase (s t : String) : Prop :=
  List.Forall₂ (fun c d => c = d ∨ c = d.toUpper ∨ c = d.toLower) s.toList t.toList

/-- The characters that have a case are among the first 128. -/
theorem ascii_or_caseless {P : Char → Prop} (ascii : ∀ n < 128, P (Char.ofNat n))
    (caseless : ∀ c, c.toUpper = c → c.toLower = c → P c) (c : Char) : P c := by
  by_cases small : c.toNat < 128
  · rw [← Char.ofNat_toNat c]
    exact ascii c.toNat small
  · refine caseless c (dif_neg fun within => small ?_) (dif_neg fun within => small ?_)
    · have high : c.toNat ≤ 122 := within.2
      omega
    · have high : c.toNat ≤ 90 := within.2
      omega

theorem toUpper_toUpper : ∀ c : Char, c.toUpper.toUpper = c.toUpper :=
  ascii_or_caseless (by decide +kernel) fun c upper _ => congrArg _ upper

theorem toUpper_toLower : ∀ c : Char, c.toLower.toUpper = c.toUpper :=
  ascii_or_caseless (by decide +kernel) fun c _ lower => congrArg _ lower

theorem isBlank_toUpper : ∀ c : Char, isBlank c.toUpper = isBlank c :=
  ascii_or_caseless (by decide +kernel) fun c upper _ => congrArg _ upper

theorem isWordChar_toUpper :
    ∀ c : Char, StatementType.isWordChar c.toUpper = StatementType.isWordChar c :=
  ascii_or_caseless (by decide +kernel) fun c upper _ => congrArg _ upper

/-- The characters by which leads and bodies are told apart. -/
def caselessMarks : List Char := ['-', '/', '*', '\n', '(', ')', '\'']

theorem toUpper_eq_mark_iff {m : Char} (mark : m ∈ caselessMarks) (c : Char) :
    c.toUpper = m ↔ c = m := by
  have all : ∀ c : Char, caselessMarks.all fun m => decide (c.toUpper = m ↔ c = m) :=
    ascii_or_caseless (by decide +kernel) fun c upper _ => by simp [upper]
  exact of_decide_eq_true (List.all_eq_true.1 (all c) m mark)

/-- The text in upper case. -/
def upper (cs : List Char) : List Char := cs.map Char.toUpper

section

variable {cs : List Char} {o : List Char}

theorem upper_cons (c : Char) (cs : List Char) : upper (c :: cs) = c.toUpper :: upper cs := rfl

theorem upper_eq_upper {s t : String} (same : SameButCase s t) :
    upper s.toList = upper t.toList := by
  have letter (c d : Char) (h : c = d ∨ c = d.toUpper ∨ c = d.toLower) : c.toUpper = d.toUpper := by
    rcases h with rfl | rfl | rfl
    · rfl
    · exact toUpper_toUpper d
    · exact toUpper_toLower d
  rw [upper, upper, ← List.forall₂_eq_eq_eq, List.forall₂_map_left_iff, List.forall₂_map_right_iff]
  exact same.imp letter

theorem prefix_upper_iff (marks : o ⊆ caselessMarks) (cs : List Char) :
    o <+: upper cs ↔ o <+: cs := by
  induction o generalizing cs with
  | nil => simp
  | cons m o ih =>
    obtain ⟨mark, others⟩ := List.cons_subset.1 marks
    cases cs with
    | nil => rfl
    | cons c cs =>
      rw [upper_cons, List.cons_prefix_cons, List.cons_prefix_cons, ih others, eq_comm,
        toUpper_eq_mark_iff mark, eq_comm]

theorem cut_upper (ne : o ≠ []) (marks : o ⊆ caselessMarks) (cs : List Char) :
    cut o (upper cs) = (cut o cs).map fun split => (upper split.1, upper split.2) := by
  induction cs with
  | nil => simp [upper, cut, ne]
  | cons c cs ih =>
    by_cases first : o <+: c :: cs
    · have first' := (prefix_upper_iff marks _).2 first
      rw [upper_cons] at first' ⊢
      rw [cut, if_pos first', cut, if_pos first, ← upper_cons, upper, ← List.map_drop]
      rfl
    · have first' := mt (prefix_upper_iff marks _).1 first
      rw [upper_cons] at first' ⊢
      rw [cut, if_neg first', cut, if_neg first, ih, Option.map_map, Option.map_map]
      rfl

theorem trimLeft_upper (cs : List Char) : trimLeft (upper cs) = upper (trimLeft cs) := by
  rw [trimLeft, upper, List.dropWhile_map]
  congr 2
  exact funext isBlank_toUpper

/-- What a pass leaves, in upper case. -/
def Pass.upper : Pass → Pass
  | last rest => last (Sql.upper rest)
  | more rest => more (Sql.upper rest)

theorem behind_upper (ne : o ≠ []) (marks : o ⊆ caselessMarks) (cs : List Char) :
    Pass.behind o (upper cs) = (Pass.behind o cs).upper := by
  rw [Pass.behind, Pass.behind, cut_upper ne marks]
  cases cut o cs <;> rfl

theorem pass_upper (cs : List Char) : pass (upper cs) = (pass cs).upper := by
  have length (cs : List Char) : (upper cs).length = cs.length := List.length_map _
  have drop (n : Nat) (cs : List Char) : (upper cs).drop n = upper (cs.drop n) := List.map_drop.symm
  have line := prefix_upper_iff (o := ['-', '-']) (by decide) (trimLeft cs)
  have block := prefix_upper_iff (o := ['/', '*']) (by decide) (trimLeft cs)
  have pair := prefix_upper_iff (o := ['(']) (by decide) (trimLeft cs)
  simp only [pass, trimLeft_upper, line, block, pair, drop, length,
    behind_upper (o := ['\n']) (by decide) (by decide),
    behind_upper (o := ['*', '/']) (by decide) (by decide)]
  split_ifs <;> rfl

theorem Passes.upper {n : Nat} {rest : List Char} (h : Passes n cs rest) :
    Passes n (Sql.upper cs) (Sql.upper rest) := by
  induction h with
  | last h => exact .last (by rw [pass_upper, h]; rfl)
  | more h _ ih => exact .more (by rw [pass_upper, h]; rfl) ih

theorem skipLead_upper (cs : List Char) : skipLead (upper cs) = upper (skipLead cs) := by
  obtain ⟨n, -, passes⟩ := exists_passes cs
  exact skipLead_of_passes passes.upper

theorem beginsWith_upper (keyword : String) (cs : List Char) :
    beginsWith keyword (upper cs) = beginsWith keyword cs := by
  have twice : Char.toUpper ∘ Char.toUpper = Char.toUpper := funext toUpper_toUpper
  simp only [beginsWith, upper, ← List.map_take, ← List.map_drop, List.map_map, twice,
    List.head?_map]
  cases (cs.drop keyword.length).head? with
  | none => rfl
  | some c => simp only [Option.map_some, isWordChar_toUpper]

theorem ofKeyword?_upper (cs : List Char) : ofKeyword? (upper cs) = ofKeyword? cs := by
  simp only [ofKeyword?, beginsWith_upper]

theorem afterBodies_upper (depth : Int) (quoted : Bool) (found cs : List Char) :
    afterBodies depth quoted (upper found) (upper cs) =
      upper (afterBodies depth quoted found cs) := by
  induction cs generalizing depth quoted found with
  | nil => rfl
  | cons c cs ih =>
    have quote : (c.toUpper == '\'') = (c == '\'') :=
      Bool.eq_iff_iff.2 (by simpa using toUpper_eq_mark_iff (by decide) c)
    simp only [upper_cons, afterBodies, toUpper_eq_mark_iff (m := '(') (by decide),
      toUpper_eq_mark_iff (m := ')') (by decide), bne, quote]
    split_ifs <;> exact ih ..

theorem ofChars_upper (cs : List Char) : ofChars (upper cs) = ofChars cs := by
  simp only [ofChars, behindBodies, skipLead_upper, beginsWith_upper, afterBodies_upper,
    trimLeft_upper, ofKeyword?_upper]

end

/-- What stands in front of a statement is taken away in a number of passes and does not tell its
type, nor does the case of its letters. -/
theorem StatementType.ofText_lead (pieces : List LeadPiece) (s : String) :
    let sql := String.ofList (leadText pieces) ++ s
    (∃ n ≤ sql.length + 1, Passes n sql.toList (skipLead sql.toList)) ∧
      ofText sql = ofText s ∧
      ∀ t, SameButCase t s → ofText (String.ofList (leadText pieces) ++ t) = ofText s := by
  intro sql
  have behind (t : String) : ofText (String.ofList (leadText pieces) ++ t) = ofText t := by
    simp only [ofText, ofChars, String.toList_append, String.toList_ofList, skipLead_leadText]
  refine ⟨?_, behind s, fun t same => ?_⟩
  · simpa only [String.length_toList] using exists_passes sql.toList
  · rw [behind, ofText, ofText, ← ofChars_upper, upper_eq_upper same, ofChars_upper]

/-- A lead of a wide blank, a parenthesis, and comments with other openers and quotes in them. -/
def mixedLead : List LeadPiece :=
  [.blank '\u2003' (by decide),
    .comment .block ['\'', '-', '-', 'é', '('] (by unfold Closes; decide),
    .parenthesis,
    .comment .line [' ', '/', '*'] (by unfold Closes; decide)]

theorem StatementType.ofText_lead_mixed :
    SameButCase "Select" "SELECT" ∧
      ofText (String.ofList (leadText mixedLead) ++ "Select") = .select := by
  have same : SameButCase "Select" "SELECT" := by
    unfold SameButCase
    simp
  have read : ofText "SELECT" = .select := by decide +kernel
  exact ⟨same, ((ofText_lead mixedLead "SELECT").2.2 _ same).trans read⟩

end DataMapper.Sql
