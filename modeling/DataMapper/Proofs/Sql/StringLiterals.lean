import DataMapper.Query.Fragment

/-!
# Reading string literals

A server reads a string literal from its opening quote to the first quote that stands for itself. In
every dialect a doubled quote inside stands for one quote; in MySQL a backslash joins the character
behind it as well. What is written for a text is read back as that text, unless it holds a backslash
that MySQL takes for its own.

## Main definitions

* `readLiteral` — the content of a literal at the beginning of a text, and the text behind it.
* `backslashesStay` — texts whose backslashes MySQL leaves as they are.
-/

namespace DataMapper

namespace Sql

/-- Does a backslash inside a literal join the character behind it? -/
def Dialect.hasEscapes : Dialect → Bool
  | mysql => true
  | postgres | sqlite => false

/-- What a backslash and the character behind it stand for. Before the wildcards of patterns the
backslash stays; a character without a meaning of its own stands for itself. -/
def unescape (c : Char) : List Char :=
  match c with
  | '0' => ['\x00']
  | 'b' => ['\x08']
  | 'n' => ['\n']
  | 'r' => ['\r']
  | 't' => ['\t']
  | 'Z' => ['\x1a']
  | '%' => ['\\', '%']
  | '_' => ['\\', '_']
  | c => [c]

/-- The content of a literal from behind its opening quote on, and the text behind its closing one;
nothing if it is not closed. -/
def readQuoted (escapes : Bool) : List Char → Option (List Char × List Char)
  | [] => none
  | '\'' :: '\'' :: cs => (readQuoted escapes cs).map fun (t, rest) => ('\'' :: t, rest)
  | '\'' :: cs => some ([], cs)
  | '\\' :: c :: cs =>
    if escapes then (readQuoted escapes cs).map fun (t, rest) => (unescape c ++ t, rest)
    else (readQuoted escapes (c :: cs)).map fun (t, rest) => ('\\' :: t, rest)
  | c :: cs => (readQuoted escapes cs).map fun (t, rest) => (c :: t, rest)

def readLiteral (d : Dialect) : List Char → Option (List Char × List Char)
  | '\'' :: cs => readQuoted d.hasEscapes cs
  | _ => none

/-- Every backslash stands right before a wildcard of patterns. -/
def backslashesStay : List Char → Bool
  | [] => true
  | '\\' :: c :: cs => (c == '%' || c == '_') && backslashesStay cs
  | c :: cs => c != '\\' && backslashesStay cs

variable {escapes : Bool} {c : Char} {cs t rest rest' : List Char}

/-! ## Single characters -/

theorem readQuoted_double :
    readQuoted escapes ('\'' :: '\'' :: cs) =
      (readQuoted escapes cs).map fun (t, rest) => ('\'' :: t, rest) := by
  rw [readQuoted]

theorem readQuoted_quote (alone : cs.head? ≠ some '\'') :
    readQuoted escapes ('\'' :: cs) = some ([], cs) := by
  rw [readQuoted]
  rintro cs rfl
  exact alone rfl

theorem readQuoted_escape :
    readQuoted true ('\\' :: c :: cs) =
      (readQuoted true cs).map fun (t, rest) => (unescape c ++ t, rest) := by
  rw [readQuoted, if_pos rfl]

theorem readQuoted_plain (quote : c ≠ '\'') (backslash : c = '\\' → escapes = false) :
    readQuoted escapes (c :: cs) = (readQuoted escapes cs).map fun (t, rest) => (c :: t, rest) := by
  by_cases same : c = '\\'
  · obtain rfl := backslash same
    subst same
    cases cs with
    | nil => rfl
    | cons c cs => rw [readQuoted, if_neg (by decide)]
  · rw [readQuoted]
    · exact fun _ first _ => quote first
    · exact quote
    · exact fun _ _ first _ => same first

/-- What is read behind more content comes from what is read behind less. -/
theorem exists_of_map_read {o : Option (List Char × List Char)} {f : List Char → List Char}
    (h : (o.map fun (t, rest) => (f t, rest)) = some (t, rest)) :
    ∃ t', o = some (t', rest) ∧ t = f t' := by
  obtain ⟨⟨t', rest'⟩, read, same⟩ := Option.map_eq_some_iff.1 h
  cases same
  exact ⟨t', read, rfl⟩

theorem length_lt_of_readQuoted (h : readQuoted escapes cs = some (t, rest)) :
    rest.length < cs.length := by
  induction cs using readQuoted.induct escapes generalizing t with
  | case1 => cases h
  | case2 cs ih =>
    obtain ⟨t', read, -⟩ := exists_of_map_read (readQuoted_double ▸ h)
    exact Nat.lt_add_right 2 (ih read)
  | case3 cs alone =>
    rw [readQuoted.eq_3 _ _ alone] at h
    cases h
    simp
  | case4 c cs escaped ih =>
    rw [readQuoted, if_pos escaped] at h
    obtain ⟨t', read, -⟩ := exists_of_map_read h
    exact Nat.lt_add_right 2 (ih read)
  | case5 c cs escaped ih =>
    rw [readQuoted, if_neg escaped] at h
    obtain ⟨t', read, -⟩ := exists_of_map_read h
    exact Nat.lt_add_right 1 (ih read)
  | case6 c cs double quote escape ih =>
    rw [readQuoted.eq_5 _ _ _ double quote escape] at h
    obtain ⟨t', read, -⟩ := exists_of_map_read h
    exact Nat.lt_add_right 1 (ih read)

/-! ## Written text -/

/-- A character between quotes stands for itself, unless it is a backslash that joins the next. -/
theorem readQuoted_quoteChar (backslash : c = '\\' → escapes = false) :
    readQuoted escapes (quoteChar c ++ cs) =
      (readQuoted escapes cs).map fun (t, rest) => (c :: t, rest) := by
  by_cases quote : c = '\''
  · subst quote
    exact readQuoted_double
  · rw [quoteChar, if_neg quote]
    exact readQuoted_plain quote backslash

theorem readQuoted_quoteChars (alone : rest.head? ≠ some '\'') :
    readQuoted false (cs.flatMap quoteChar ++ '\'' :: rest) = some (cs, rest) := by
  induction cs with
  | nil => exact readQuoted_quote alone
  | cons c cs ih =>
    rw [List.flatMap_cons, List.append_assoc, readQuoted_quoteChar fun _ => rfl, ih]
    rfl

theorem unescape_of_ne {c : Char} (percent : c ≠ '%') (underscore : c ≠ '_') :
    (unescape c).length = 1 := by
  unfold unescape
  split <;> first | rfl | contradiction

/-- Behind the first half of a doubled quote, reading does not come out where the text ends. -/
theorem rest_ne_of_readQuoted_half
    (h : readQuoted true ('\'' :: (cs.flatMap quoteChar ++ '\'' :: rest)) = some (t, rest')) :
    rest' ≠ rest := by
  induction cs generalizing t with
  | nil =>
    obtain ⟨t', read, -⟩ := exists_of_map_read (readQuoted_double ▸ h)
    have := length_lt_of_readQuoted read
    rintro rfl
    omega
  | cons c cs ih =>
    by_cases quote : c = '\''
    · subst quote
      obtain ⟨t', read, -⟩ := exists_of_map_read (readQuoted_double ▸ h)
      exact ih read
    · rw [List.flatMap_cons, quoteChar, if_neg quote, readQuoted_quote (by simpa using quote)] at h
      cases h
      intro same
      have := congrArg List.length same
      simp only [List.length_append, List.length_cons] at this
      omega

/-- What MySQL reads up to the closing quote of a text is no longer than the text, and it is the
text only if its backslashes stay. -/
theorem backslashesStay_of_readQuoted (alone : rest.head? ≠ some '\'')
    (h : readQuoted true (cs.flatMap quoteChar ++ '\'' :: rest) = some (t, rest)) :
    t.length ≤ cs.length ∧ (t = cs → backslashesStay cs = true) := by
  induction cs using backslashesStay.induct generalizing t with
  | case1 =>
    rw [List.flatMap_nil, List.nil_append, readQuoted_quote alone] at h
    cases h
    simp [backslashesStay]
  | case2 c cs ih =>
    have word : quoteChar '\\' = ['\\'] := by decide
    rw [List.flatMap_cons, word, List.flatMap_cons] at h
    by_cases quote : c = '\''
    · subst quote
      obtain ⟨t', read, -⟩ := exists_of_map_read (readQuoted_escape ▸ h)
      exact absurd rfl (rest_ne_of_readQuoted_half read)
    · rw [quoteChar, if_neg quote] at h
      obtain ⟨t', read, rfl⟩ := exists_of_map_read (readQuoted_escape ▸ h)
      obtain ⟨short, stay⟩ := ih read
      by_cases wildcard : c = '%' ∨ c = '_'
      · have kept : unescape c = ['\\', c] := by
          rcases wildcard with rfl | rfl <;> rfl
        have joined : (c == '%' || c == '_') = true := by simpa using wildcard
        refine ⟨by simp [kept, short], fun same => ?_⟩
        rw [backslashesStay, joined, Bool.true_and]
        exact stay (by simpa [kept] using same)
      · rw [not_or] at wildcard
        have one := unescape_of_ne wildcard.1 wildcard.2
        refine ⟨by simp only [List.length_append, List.length_cons]; omega, fun same => ?_⟩
        have := congrArg List.length same
        simp only [List.length_append, List.length_cons] at this
        omega
  | case3 c cs single ih =>
    by_cases backslash : c = '\\'
    · subst backslash
      obtain rfl : cs = [] := List.eq_nil_iff_forall_not_mem.2 (by
        intro d hd
        obtain ⟨d, ds, rfl⟩ := List.exists_cons_of_ne_nil (List.ne_nil_of_mem hd)
        exact single d ds rfl rfl)
      -- the closing quote is taken for text
      obtain ⟨t', read, -⟩ := exists_of_map_read (readQuoted_escape ▸ h)
      exact absurd (length_lt_of_readQuoted read) (Nat.lt_irrefl _)
    · rw [List.flatMap_cons, List.append_assoc,
        readQuoted_quoteChar fun same => absurd same backslash] at h
      obtain ⟨t', read, rfl⟩ := exists_of_map_read h
      obtain ⟨short, stay⟩ := ih read
      refine ⟨by simpa using short, fun same => ?_⟩
      rw [backslashesStay.eq_3 _ _ single, stay (by simpa using same)]
      simpa using backslash

theorem readQuoted_of_backslashesStay (alone : rest.head? ≠ some '\'')
    (stay : backslashesStay cs = true) :
    readQuoted true (cs.flatMap quoteChar ++ '\'' :: rest) = some (cs, rest) := by
  induction cs using backslashesStay.induct with
  | case1 => exact readQuoted_quote alone
  | case2 c cs ih =>
    rw [backslashesStay, Bool.and_eq_true] at stay
    have wildcard : quoteChar c = [c] ∧ unescape c = ['\\', c] := by
      rcases Bool.or_eq_true_iff.1 stay.1 with same | same <;>
      · obtain rfl := eq_of_beq same
        decide
    have word : quoteChar '\\' = ['\\'] := by decide
    have read : readQuoted true ('\\' :: c :: (cs.flatMap quoteChar ++ '\'' :: rest)) =
        some ('\\' :: c :: cs, rest) := by
      rw [readQuoted_escape, ih stay.2, wildcard.2]
      rfl
    rwa [List.flatMap_cons, word, List.flatMap_cons, wildcard.1]
  | case3 c cs single ih =>
    rw [backslashesStay.eq_3 _ _ single, Bool.and_eq_true] at stay
    have backslash : c ≠ '\\' := by simpa using stay.1
    rw [List.flatMap_cons, List.append_assoc,
      readQuoted_quoteChar fun same => absurd same backslash, ih stay.2]
    rfl

/-- A quoted text in front of other text is read back, in MySQL exactly if its backslashes stay. -/
theorem readLiteral_quoted_iff (d : Dialect) (alone : rest.head? ≠ some '\'') :
    readLiteral d (quoted cs ++ rest) = some (cs, rest) ↔
      (d = .mysql → backslashesStay cs = true) := by
  have opened : readLiteral d (quoted cs ++ rest) =
      readQuoted d.hasEscapes (cs.flatMap quoteChar ++ '\'' :: rest) := by
    simp [quoted, readLiteral]
  rw [opened]
  cases d with
  | mysql =>
    refine ⟨fun read _ => (backslashesStay_of_readQuoted alone read).2 rfl, fun stay => ?_⟩
    exact readQuoted_of_backslashesStay alone (stay rfl)
  | postgres | sqlite =>
    refine ⟨nofun, fun _ => ?_⟩
    exact readQuoted_quoteChars alone

end Sql

/-! ## Values -/

/-- The text that a value of text is. -/
def Value.characters? : Value → Option (List Char)
  | .char c => some [c]
  | .text s | .enumName s => some s.toList
  | .json j => some j.chars
  | _ => none

namespace Fragment

open Sql

/-- A text that is not passed as a parameter is written as a literal, in whose place the server
reads the text and nothing else: in MySQL if its backslashes stay and only then, elsewhere
always. -/
theorem readLiteral_ofValue_iff {o : BuildOptions} (inlined : o.parameterized = false) {v : Value}
    {cs : List Char} (text : v.characters? = some cs) {rest : List Char}
    (alone : rest.head? ≠ some '\'') :
    (ofValue o v).parameters = [] ∧
      (readLiteral o.dialect ((ofValue o v).text ++ rest) = some (cs, rest) ↔
        (o.dialect = .mysql → backslashesStay cs = true)) := by
  have written : ofValue o v = ofText (quoted cs) := by
    cases v with
    | char | text | enumName | json =>
      obtain rfl := Option.some.inj text
      simp only [ofValue, inlined, Bool.false_eq_true, ↓reduceIte, ite_self]
      rfl
    | null | bool | int | float | decimal | bytes | date | time | timestamp | timestampUtc | uuid
    | serverNow => cases text
  rw [written]
  exact ⟨rfl, readLiteral_quoted_iff o.dialect alone⟩

/-- Quotes are read back in MySQL, and so is a backslash before a wildcard. -/
theorem readLiteral_ofValue_wildcard :
    let o : BuildOptions := { parameterized := false, dialect := .mysql }
    (ofValue o (.text "it's 50\\%")).text = "'it''s 50\\%'".toList ∧
      readLiteral .mysql ((ofValue o (.text "it's 50\\%")).text ++ " OR b=1".toList) =
        some ("it's 50\\%".toList, " OR b=1".toList) := by
  intro o
  have stay : backslashesStay "it's 50\\%".toList = true := by decide
  have alone : " OR b=1".toList.head? ≠ some '\'' := by decide
  have read := @readLiteral_ofValue_iff o rfl (.text "it's 50\\%") _ rfl _ alone
  exact ⟨by decide, read.2.2 fun _ => stay⟩

/-- In MySQL a backslash takes the first half of a doubled quote with it, and the rest of the text
is read as part of the statement. -/
theorem readLiteral_ofValue_injection :
    let o : BuildOptions := { parameterized := false, dialect := .mysql }
    readLiteral .mysql (ofValue o (.text "\\' OR 1=1 -- ")).text =
        some (['\''], " OR 1=1 -- '".toList) ∧
      ¬ ∀ (v : Value) (cs rest : List Char), v.characters? = some cs → rest.head? ≠ some '\'' →
        readLiteral .mysql ((ofValue o v).text ++ rest) = some (cs, rest) := by
  intro o
  have read : readLiteral .mysql (ofValue o (.text "\\' OR 1=1 -- ")).text =
      some (['\''], " OR 1=1 -- '".toList) := by decide
  refine ⟨read, fun claimed => ?_⟩
  have whole := claimed (.text "\\' OR 1=1 -- ") _ [] rfl (by decide)
  rw [List.append_nil, read] at whole
  exact absurd whole (by decide)

end Fragment

end DataMapper
