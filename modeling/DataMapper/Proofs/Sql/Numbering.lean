import DataMapper.Proofs.Sql.Division

/-!
# Numbered placeholders

A numbered mark brings a dollar sign into the text, and a dollar sign may open a body. It opens none
where no placeholder stands behind a possible tag: then the numbered text falls into the same pieces
as before, but for the marks.

## Main definitions

* `Apart` — no placeholder joins a possible tag in front of it or a digit behind it.
* `numbered` — pieces with their question marks numbered.
-/

namespace DataMapper.Sql

open Number Text

/-! ## Placeholders that join nothing -/

/-- The text ends in a dollar sign and the characters of a possible name behind it. -/
def EndsInTag (cs : List Char) : Prop :=
  ∃ front name, cs = front ++ '$' :: name ∧ name.all isNameChar = true

theorem endsInTag_iff {cs : List Char} :
    EndsInTag cs ↔ (cs.reverse.dropWhile isNameChar).head? = some '$' := by
  constructor
  · rintro ⟨front, name, rfl, letters⟩
    have read : ∀ c ∈ name.reverse, isNameChar c = true := by simpa using letters
    have stop : isNameChar '$' = false := by decide
    simp [List.dropWhile_append_of_pos read, stop]
  · intro dollar
    obtain ⟨front, behind⟩ := List.head?_eq_some_iff.1 dollar
    have split := List.takeWhile_append_dropWhile (p := isNameChar) (l := cs.reverse)
    rw [behind] at split
    refine ⟨front.reverse, (cs.reverse.takeWhile isNameChar).reverse, ?_, ?_⟩
    · simpa using congrArg List.reverse split.symm
    · rw [List.all_reverse]
      exact List.all_takeWhile

instance (cs : List Char) : Decidable (EndsInTag cs) := decidable_of_iff _ endsInTag_iff.symm

/-- No placeholder stands right behind the characters of a possible tag, or right before a digit. -/
def Apart (sql : String) : Prop :=
  ∀ before after, sql.toList = before ++ '?' :: after →
    byteLength before ∈ placeholderOffsets sql →
      ¬ EndsInTag before ∧ after.head?.any Char.isDigit = false

theorem apart_iff {sql : String} :
    Apart sql ↔ ∀ i < sql.toList.length, sql.toList[i]? = some '?' →
      byteLength (sql.toList.take i) ∈ placeholderOffsets sql →
        ¬ EndsInTag (sql.toList.take i) ∧
          (sql.toList.drop (i + 1)).head?.any Char.isDigit = false := by
  constructor
  · intro apart i bound mark
    obtain ⟨_, same⟩ := List.getElem?_eq_some_iff.1 mark
    refine apart _ _ ?_
    rw [← same, ← List.drop_eq_getElem_cons, List.take_append_drop]
  · intro places before after split
    have here := places before.length
    simp only [split, List.length_append, List.length_cons] at here
    simpa using here (by omega)

instance (sql : String) : Decidable (Apart sql) := decidable_of_iff _ apart_iff.symm

/-! ## Substitution where the offsets are known -/

/-- Scans that find the same placeholders replace the same characters. -/
theorem substitute_congr {m m' : Mode} {offset : Nat} {cs : List Char}
    (h : offsetsFrom m offset cs = offsetsFrom m' offset cs) (ts : List (List Char)) :
    substitute m ts cs = substitute m' ts cs := by
  induction cs generalizing m m' offset ts with
  | nil => simp [substitute]
  | cons c cs ih =>
    have pos := Char.utf8Size_pos c
    have later (k : Mode) : offset ∉ offsetsFrom k (offset + c.utf8Size) cs := by
      intro found
      have bound := le_of_mem_offsetsFrom found
      omega
    rw [offsetsFrom, offsetsFrom] at h
    cases mark : isPlaceholder m c <;> cases mark' : isPlaceholder m' c <;>
      simp only [mark, mark', Bool.false_eq_true, ↓reduceIte] at h
    case false.true => exact absurd (h ▸ List.mem_cons_self) (later _)
    case true.false => exact absurd (h ▸ List.mem_cons_self) (later _)
    case false.false => simp [substitute, mark, mark', ih h]
    case true.true =>
      have rest := ih (List.cons.inj h).2
      cases ts <;> simp [substitute, mark, mark', rest]

/-- Text in front in which nothing is found, and behind which the scan is in plain text, is left as
it is. -/
theorem substitute_append_of_offsetsFrom {m : Mode} {offset : Nat} {a b : List Char}
    (h : offsetsFrom m offset (a ++ b) = offsetsFrom .plain (offset + byteLength a) b)
    (ts : List (List Char)) : substitute m ts (a ++ b) = a ++ substitute .plain ts b := by
  induction a generalizing m offset with
  | nil => exact substitute_congr (by simpa using h) ts
  | cons c a ih =>
    have pos := Char.utf8Size_pos c
    have whole : byteLength (c :: a) = c.utf8Size + byteLength a := by simp
    have mark : isPlaceholder m c = false := by
      refine Bool.eq_false_iff.2 fun mark => ?_
      have here : offset ∈ offsetsFrom m offset (c :: a ++ b) := by simp [offsetsFrom, mark]
      have bound := le_of_mem_offsetsFrom (h ▸ here)
      omega
    have found : offsetsFrom (m.step c) (offset + c.utf8Size) (a ++ b) =
        offsetsFrom .plain (offset + c.utf8Size + byteLength a) b := by
      simpa [offsetsFrom, mark, Nat.add_assoc] using h
    simp [substitute, mark, ih found]

/-! ## Numbered pieces -/

/-- A numbered mark. -/
def dollarNumber (k : Nat) : List Char := '$' :: Nat.toDigits 10 k

/-- The pieces of a text with its question marks numbered from `k` on. -/
def numbered (k : Nat) : List Piece → List Piece
  | [] => []
  | p :: ps =>
    if p = .single '?' then (dollarNumber k).map .single ++ numbered (k + 1) ps
    else p :: numbered k ps

@[simp] theorem numbered_nil (k : Nat) : numbered k [] = [] := rfl

@[simp] theorem numbered_mark (k : Nat) (ps : List Piece) :
    numbered k (.single '?' :: ps) = (dollarNumber k).map .single ++ numbered (k + 1) ps := rfl

theorem numbered_cons {p : Piece} (h : p ≠ .single '?') (k : Nat) (ps : List Piece) :
    numbered k (p :: ps) = p :: numbered k ps := if_neg h

theorem numbered_append (k : Nat) (ps qs : List Piece) :
    numbered k (ps ++ qs) = numbered k ps ++ numbered (k + ps.count (.single '?')) qs := by
  induction ps generalizing k with
  | nil => simp
  | cons p ps ih =>
    by_cases mark : p = .single '?'
    · subst mark
      have next : k + 1 + ps.count (.single '?') = k + (ps.count (.single '?') + 1) := by omega
      simp [ih, next]
    · simp [numbered_cons mark, mark, ih]

theorem numbered_of_notMem {ps : List Piece} (h : .single '?' ∉ ps) (k : Nat) :
    numbered k ps = ps := by
  induction ps with
  | nil => rfl
  | cons p ps ih =>
    obtain ⟨other, rest⟩ := by simpa using h
    rw [numbered_cons (Ne.symm other), ih rest]

/-- Up to the first mark nothing changes. -/
theorem numbered_cases (k : Nat) (ps : List Piece) :
    numbered k ps = ps ∨ ∃ before after rest, ps = before ++ .single '?' :: after ∧
      numbered k ps = before ++ .single '$' :: rest := by
  by_cases mark : .single '?' ∈ ps
  · obtain ⟨before, after, rfl, none⟩ := List.eq_append_cons_of_mem mark
    refine .inr ⟨before, after, (Nat.toDigits 10 (k + before.count (.single '?'))).map .single ++
      numbered (k + before.count (.single '?') + 1) after, rfl, ?_⟩
    rw [numbered_append, numbered_of_notMem none, numbered_mark, dollarNumber, List.map_cons,
      List.cons_append]
  · exact .inl (numbered_of_notMem mark k)

theorem mark_notMem_numbered (k : Nat) (ps : List Piece) : .single '?' ∉ numbered k ps := by
  induction ps generalizing k with
  | nil => simp
  | cons p ps ih =>
    by_cases mark : p = .single '?'
    · subst mark
      have digits : '?' ∉ Nat.toDigits 10 k := fun found =>
        absurd (isDigit_of_mem_toDigits found) (by decide)
      simp [dollarNumber, digits, ih]
    · simp [numbered_cons mark, Ne.symm mark, ih]

theorem marks_of_notMem {ps : List Piece} (h : .single '?' ∉ ps) (offset : Nat) :
    marks offset ps = [] := by
  refine List.eq_nil_iff_forall_not_mem.2 fun i found => ?_
  obtain ⟨before, after, rfl, -⟩ := mem_marks_iff.1 found
  exact h (by simp)

theorem length_marks (offset : Nat) (ps : List Piece) :
    (marks offset ps).length = ps.count (.single '?') := by
  induction ps generalizing offset with
  | nil => rfl
  | cons p ps ih => by_cases mark : p = .single '?' <;> simp [marks, mark, ih]

theorem placeholderCount_eq_count {cs : List Char} {ps : List Piece} (h : Divides cs ps) :
    placeholderCount .plain cs = ps.count (.single '?') := by
  rw [← length_offsetsFrom .plain 0, offsetsFrom_eq_marks h, length_marks]

/-- The substitution of numbers is that of the pieces. -/
theorem substitute_numbers {cs : List Char} {ps : List Piece} (h : Divides cs ps) (k : Nat) :
    substitute .plain ((List.range' k (ps.count (.single '?'))).map dollarNumber) cs =
      (numbered k ps).flatMap Piece.text := by
  induction h generalizing k with
  | nil => simp [substitute]
  | @closed opener body closer cs ps opens closes rest ih =>
    have first := cut_of_closes opens.closer_ne_nil closes cs
    have found : offsetsFrom .plain 0 (opener ++ body ++ closer ++ cs) =
        offsetsFrom .plain (0 + byteLength (opener ++ body ++ closer)) cs := by
      rw [List.append_assoc, List.append_assoc, ← List.append_assoc body, opens.offsetsFrom, first]
    have same : (Piece.closed opener body closer :: ps).count (.single '?') =
        ps.count (.single '?') := by simp
    rw [same, substitute_append_of_offsetsFrom found, ih, numbered_cons (by simp)]
    rfl
  | @unclosed opener body closer opens never =>
    have found := opens.offsetsFrom 0 body
    rw [(cut_eq_none_iff opens.closer_ne_nil).2 never] at found
    have none : placeholderCount .plain (opener ++ body) = 0 := by
      rw [← length_offsetsFrom .plain 0, found]
      rfl
    simp [substitute_of_placeholderCount_eq_zero none, numbered_cons, Piece.text]
  | @single c cs ps plain rest ih =>
    by_cases mark : c = '?'
    · subst mark
      have here : isPlaceholder .plain '?' = true := rfl
      have next : Mode.plain.step '?' = .plain := rfl
      have text : ((dollarNumber k).map Piece.single).flatMap Piece.text = dollarNumber k := by
        simp [List.flatMap_map, Piece.text]
      simp [List.range'_succ, substitute, here, next, ih, text]
    · have other : isPlaceholder .plain c = false := by simp [isPlaceholder, mark]
      have same := substitute_congr (offsetsFrom_enter plain 0)
      simp [substitute, other, same, numbered_cons, mark, ih, Piece.text]

/-! ## What opens in numbered text -/

/-- Behind characters that a name cannot join, a dollar sign adds nothing to what opens. -/
theorem Opening.prefix_of_prefix_dollar {opener closer before behind : List Char} {c : Char}
    (h : Opening opener closer) (apart : ¬ EndsInTag (c :: before))
    (opens : opener <+: c :: before ++ '$' :: behind) : opener <+: c :: before := by
  have front : c :: before <+: c :: before ++ '$' :: behind := List.prefix_append _ _
  refine List.prefix_of_prefix_length_le opens front ?_
  cases h with
  | single | double => simp
  | lineComment | blockComment =>
    cases before with
    | nil => simp at opens
    | cons => simp
  | @dollar name tag =>
    obtain ⟨rfl, inside⟩ : '$' = c ∧ name ++ ['$'] <+: before ++ '$' :: behind := by
      simpa [dollarQuote] using opens
    refine Nat.le_of_not_lt fun long => ?_
    have shorter : before.length ≤ name.length := by
      simp only [dollarQuote, List.cons_append, List.length_cons, List.length_append,
        List.length_nil] at long
      omega
    have named : before <+: name := by
      refine List.prefix_of_prefix_length_le (List.prefix_append before ('$' :: behind)) ?_ shorter
      exact (List.prefix_append name ['$']).trans inside
    refine apart ⟨[], before, rfl, List.all_eq_true.2 fun d hd => ?_⟩
    exact List.all_eq_true.1 tag.1 d (named.subset hd)

theorem Opening.not_prefix_dollar_digit {opener closer cs : List Char} {d : Char}
    (h : Opening opener closer) (digit : d.isDigit = true) : ¬ opener <+: '$' :: d :: cs := by
  cases h with
  | single | double | lineComment | blockComment => simp
  | @dollar name tag =>
    cases name with
    | nil =>
      rintro opens
      obtain rfl : '$' = d := by simpa [dollarQuote] using opens
      exact absurd digit (by decide)
    | cons e name =>
      rintro opens
      obtain ⟨rfl, -⟩ : e = d ∧ name ++ ['$'] <+: cs := by simpa [dollarQuote] using opens
      have notDigit : e.isDigit = false := tag.2
      simp [digit] at notDigit

/-- A numbered mark falls into single characters. -/
theorem divides_dollarNumber {cs : List Char} {ps : List Piece} (h : Divides cs ps) (k : Nat) :
    Divides (dollarNumber k ++ cs) ((dollarNumber k).map .single ++ ps) := by
  obtain ⟨d, ds, same⟩ := List.exists_cons_of_ne_nil (Nat.toDigits_ne_nil (n := k) (b := 10))
  have digit : d.isDigit = true := isDigit_of_mem_toDigits (n := k) (same ▸ List.mem_cons_self)
  refine .single (fun _ _ opens => ?_) ?_
  · rw [same]
    exact opens.not_prefix_dollar_digit digit
  · exact divides_append_of_all_isInert (word_toDigits k).all_isInert h

/-- No mark stands right behind the characters of a possible tag. -/
def MarksApart (ps : List Piece) : Prop :=
  ∀ before after, ps = before ++ .single '?' :: after → ¬ EndsInTag (before.flatMap Piece.text)

theorem MarksApart.tail {p : Piece} {ps : List Piece} (h : MarksApart (p :: ps)) :
    MarksApart ps := by
  rintro before after rfl ⟨front, name, same, letters⟩
  exact h (p :: before) after rfl ⟨p.text ++ front, name, by simp [same], letters⟩

/-- Numbered text falls into numbered pieces. -/
theorem divides_numbered {cs : List Char} {ps : List Piece} (h : Divides cs ps)
    (apart : MarksApart ps) (k : Nat) :
    Divides ((numbered k ps).flatMap Piece.text) (numbered k ps) := by
  induction h generalizing k with
  | nil => exact .nil
  | closed opens closes _ ih => exact .closed opens closes (ih apart.tail k)
  | unclosed opens never => simpa [numbered_cons, Piece.text] using Divides.unclosed opens never
  | @single c cs ps plain rest ih =>
    by_cases mark : c = '?'
    · subst mark
      have text : ((dollarNumber k).map Piece.single).flatMap Piece.text = dollarNumber k := by
        simp [List.flatMap_map, Piece.text]
      rw [numbered_mark, List.flatMap_append, text]
      exact divides_dollarNumber (ih apart.tail (k + 1)) k
    · rw [numbered_cons (by simpa using mark)]
      refine .single (fun opener closer opens first => plain opener closer opens ?_)
        (ih apart.tail k)
      change opener <+: c :: (numbered k ps).flatMap Piece.text at first
      rcases numbered_cases k ps with same | ⟨before, after, behind, rfl, same⟩
      · rwa [same, rest.text] at first
      · -- what opens does so before the first mark, where the text is as it was
        have away : ¬ EndsInTag (c :: before.flatMap Piece.text) :=
          apart (.single c :: before) after rfl
        rw [same, List.flatMap_append, ← List.cons_append] at first
        have inside := opens.prefix_of_prefix_dollar away first
        rw [← rest.text, List.flatMap_append, ← List.cons_append]
        exact inside.trans (List.prefix_append _ _)

/-- No numbered mark is followed by a digit that the text did not have there. -/
theorem head?_numbered (k : Nat) (ps : List Piece) :
    ((numbered k ps).flatMap Piece.text).head? = (ps.flatMap Piece.text).head? ∨
      ((numbered k ps).flatMap Piece.text).head? = some '$' := by
  rcases numbered_cases k ps with same | ⟨before, after, behind, rfl, same⟩
  · exact .inl (by rw [same])
  · cases front : before.flatMap Piece.text with
    | nil => exact .inr (by simp [same, front, Piece.text])
    | cons => exact .inl (by simp [same, front])

/-- Placeholders that join nothing are numbered from left to right and nothing else changes: the
numbered text falls into the pieces of the text as it was, with the `k`-th question mark written as
a dollar sign and the digits of `k`, which no other digit follows. No placeholder is left, and
numbering the text again leaves it as it is. -/
theorem numberPlaceholders_divides {sql : String} (apart : Apart sql) :
    (∃ ps, Divides sql.toList ps ∧ Divides (numberPlaceholders sql).toList (numbered 1 ps) ∧
      ∀ before after, ps = before ++ .single '?' :: after →
        ∃ k rest, k = before.count (.single '?') + 1 ∧
          numbered 1 ps = numbered 1 before ++ (dollarNumber k).map .single ++ rest ∧
          rest = numbered (k + 1) after ∧
          (rest.flatMap Piece.text).head?.any Char.isDigit = false) ∧
      placeholderOffsets (numberPlaceholders sql) = [] ∧
      numberPlaceholders (numberPlaceholders sql) = numberPlaceholders sql := by
  obtain ⟨ps, divides⟩ := exists_divides sql.toList
  have places (before after : List Piece) (split : ps = before ++ .single '?' :: after) :
      ¬ EndsInTag (before.flatMap Piece.text) ∧
        (after.flatMap Piece.text).head?.any Char.isDigit = false := by
    refine apart _ _ ?_ ?_
    · rw [← divides.text, split]
      simp [Piece.text]
    · rw [placeholderOffsets, offsetsFrom_eq_marks divides, mem_marks_iff]
      exact ⟨before, after, split, (Nat.zero_add _).symm⟩
  have text : (numberPlaceholders sql).toList = (numbered 1 ps).flatMap Piece.text := by
    have marks : numberedMarks (placeholderCount .plain sql.toList) =
        (List.range' 1 (ps.count (.single '?'))).map dollarNumber := by
      rw [placeholderCount_eq_count divides, List.range'_eq_map_range, List.map_map]
      exact List.map_congr_left fun k _ => by simp [dollarNumber, Nat.add_comm]
    rw [numberPlaceholders, String.toList_ofList, marks, substitute_numbers divides]
  have divided : Divides (numberPlaceholders sql).toList (numbered 1 ps) := by
    rw [text]
    exact divides_numbered divides (fun before after split => (places before after split).1) 1
  have none : placeholderOffsets (numberPlaceholders sql) = [] := by
    rw [placeholderOffsets, offsetsFrom_eq_marks divided,
      marks_of_notMem (mark_notMem_numbered 1 ps)]
  refine ⟨⟨ps, divides, divided, ?_⟩, none, ?_⟩
  · intro before after split
    refine ⟨_, _, rfl, ?_, rfl, ?_⟩
    · rw [split, numbered_append, numbered_mark, Nat.add_comm 1, ← List.append_assoc]
    · rcases head?_numbered (before.count (.single '?') + 1 + 1) after with same | dollar
      · rw [same]
        exact (places before after split).2
      · rw [dollar]
        rfl
  · have count : placeholderCount .plain (numberPlaceholders sql).toList = 0 := by
      rw [← length_offsetsFrom .plain 0]
      exact List.length_eq_zero_iff.2 none
    rw [numberPlaceholders.eq_1 (numberPlaceholders sql),
      substitute_of_placeholderCount_eq_zero count, String.ofList_toList]

/-- Question marks in quotes, in a comment and in a body stay; the others are numbered. -/
theorem numberPlaceholders_divides_query :
    Apart "SELECT '?' WHERE a=? AND b IN (?,?) AND c=$q$?$q$ -- ?" ∧
      numberPlaceholders "SELECT '?' WHERE a=? AND b IN (?,?) AND c=$q$?$q$ -- ?" =
        "SELECT '?' WHERE a=$1 AND b IN ($2,$3) AND c=$q$?$q$ -- ?" ∧
      placeholderOffsets "SELECT '?' WHERE a=$1 AND b IN ($2,$3) AND c=$q$?$q$ -- ?" = [] := by
  have apart : Apart "SELECT '?' WHERE a=? AND b IN (?,?) AND c=$q$?$q$ -- ?" := by decide
  have text : numberPlaceholders "SELECT '?' WHERE a=? AND b IN (?,?) AND c=$q$?$q$ -- ?" =
      "SELECT '?' WHERE a=$1 AND b IN ($2,$3) AND c=$q$?$q$ -- ?" := by decide
  obtain ⟨-, none, -⟩ := numberPlaceholders_divides apart
  exact ⟨apart, text, text ▸ none⟩

end DataMapper.Sql
