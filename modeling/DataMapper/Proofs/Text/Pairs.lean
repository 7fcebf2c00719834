import DataMapper.Text.Pairs

/-!
# Written pairs read back

An escaped text holds neither a line feed nor an equals sign that stands for itself. So the lines of
a written list of pairs are its pairs, one each, and the first equals sign of a line that no
backslash escapes is the one between the key and the value.
-/

namespace DataMapper.Text

/-! ## Escaped texts -/

theorem unescapePairText_plain {c : Char} (plain : c ≠ '\\') (cs : List Char) :
    unescapePairText (c :: cs) = (unescapePairText cs).map (c :: ·) := by
  rw [unescapePairText]
  · rintro rfl
    exact absurd rfl plain
  · rintro d ds rfl
    exact absurd rfl plain

theorem readPair_plain {c : Char} (plain : c ≠ '\\') (other : c ≠ '=') (cs : List Char) :
    readPair (c :: cs) = (readPair cs).map fun p => (c :: p.1, p.2) := by
  rw [readPair]
  · rintro rfl
    exact absurd rfl plain
  · rintro d ds rfl
    exact absurd rfl plain
  · rintro rfl
    exact absurd rfl other

/-- A character is written as it is, or as a backslash before a character that stands for it. -/
theorem escapePairChar_cases (c : Char) :
    (escapePairChar c = [c] ∧ c ≠ '\\' ∧ c ≠ '=' ∧ c ≠ '\n') ∨
      ∃ d, escapePairChar c = ['\\', d] ∧ unescapePairChar d = c ∧ d ≠ '\n' := by
  unfold escapePairChar
  split
  · exact .inr ⟨'\\', rfl, rfl, by decide⟩
  · exact .inr ⟨'=', rfl, rfl, by decide⟩
  · exact .inr ⟨'n', rfl, rfl, by decide⟩
  · exact .inr ⟨'r', rfl, rfl, by decide⟩
  · next slash equals feed _ => exact .inl ⟨rfl, slash, equals, feed⟩

theorem escapePairText_cons (c : Char) (cs : List Char) :
    escapePairText (c :: cs) = escapePairChar c ++ escapePairText cs := rfl

theorem unescapePairText_escapePairText (cs : List Char) :
    unescapePairText (escapePairText cs) = some cs := by
  induction cs with
  | nil => rfl
  | cons c cs ih =>
    rw [escapePairText_cons]
    rcases escapePairChar_cases c with ⟨written, plain, -, -⟩ | ⟨d, written, stands, -⟩
    · rw [written, List.singleton_append, unescapePairText_plain plain, ih]
      rfl
    · rw [written, List.cons_append, List.singleton_append, unescapePairText, ih, Option.map_some,
        stands]

/-- A line reads back as the pair that was written. -/
theorem readPair_escapePairText (key value : List Char) :
    readPair (escapePairText key ++ '=' :: escapePairText value) = .ok (key, value) := by
  induction key with
  | nil =>
    have separator : escapePairText [] ++ '=' :: escapePairText value =
      '=' :: escapePairText value := rfl
    rw [separator, readPair, unescapePairText_escapePairText]
  | cons c key ih =>
    rw [escapePairText_cons, List.append_assoc]
    rcases escapePairChar_cases c with ⟨written, plain, other, -⟩ | ⟨d, written, stands, -⟩
    · rw [written, List.singleton_append, readPair_plain plain other, ih]
      rfl
    · rw [written, List.cons_append, List.singleton_append, readPair, ih]
      exact congrArg (fun c => Except.ok (c :: key, value)) stands

/-! ## Lines -/

theorem feed_notMem_escapePairText (cs : List Char) : '\n' ∉ escapePairText cs := by
  induction cs with
  | nil => exact List.not_mem_nil
  | cons c cs ih =>
    rw [escapePairText_cons, List.mem_append, not_or]
    refine ⟨?_, ih⟩
    rcases escapePairChar_cases c with ⟨written, -, -, other⟩ | ⟨d, written, -, other⟩
    · simpa [written] using other.symm
    · simpa [written] using other.symm

theorem feed_notMem_encodePair (p : String × String) : '\n' ∉ encodePair p := by
  simp [encodePair, feed_notMem_escapePairText]

theorem splitLines_plain {c : Char} (other : c ≠ '\n') {cs line : List Char}
    {lines : List (List Char)} (rest : splitLines cs = line :: lines) :
    splitLines (c :: cs) = (c :: line) :: lines := by
  rw [splitLines]
  · rw [rest]
  · rintro rfl
    exact absurd rfl other

/-- A piece without line feeds is cut off where it ends. -/
theorem splitLines_append {line : List Char} (whole : '\n' ∉ line) :
    splitLines line = [line] ∧
      ∀ cs, splitLines (line ++ '\n' :: cs) = line :: splitLines cs := by
  induction line with
  | nil => exact ⟨rfl, fun _ => rfl⟩
  | cons c line ih =>
    obtain ⟨other, rest⟩ := by simpa [not_or] using whole
    obtain ⟨alone, before⟩ := ih rest
    have first : c ≠ '\n' := Ne.symm other
    exact ⟨splitLines_plain first alone, fun cs => splitLines_plain first (before cs)⟩

theorem splitLines_joinLines {line : List Char} {lines : List (List Char)}
    (whole : ∀ l ∈ line :: lines, '\n' ∉ l) :
    splitLines (joinLines (line :: lines)) = line :: lines := by
  induction lines generalizing line with
  | nil => exact (splitLines_append (whole line List.mem_cons_self)).1
  | cons next lines ih =>
    obtain ⟨first, rest⟩ := List.forall_mem_cons.1 whole
    have joined : joinLines (line :: next :: lines) =
      line ++ '\n' :: joinLines (next :: lines) := rfl
    rw [joined, (splitLines_append first).2, ih rest]

/-! ## Lists of pairs -/

theorem decodeLines_encodePair (pairs : List (String × String)) (number : Nat) :
    decodeLines number (pairs.map encodePair) = .ok pairs := by
  induction pairs generalizing number with
  | nil => rfl
  | cons p pairs ih =>
    have some : (encodePair p).isEmpty = false := by simp [encodePair]
    have read : readPair (encodePair p) = .ok (p.1.toList, p.2.toList) :=
      readPair_escapePairText _ _
    rw [List.map_cons, decodeLines, some, read]
    simp only [Bool.false_eq_true, ↓reduceIte, ih, String.ofList_toList]
    rfl

/-- What is written for a list of pairs reads back as that list. -/
theorem decodePairs_encodePairs (pairs : List (String × String)) :
    decodePairs (encodePairs pairs) = .ok pairs := by
  unfold decodePairs encodePairs
  rw [String.toList_ofList]
  cases pairs with
  | nil => rfl
  | cons p pairs =>
    have whole : ∀ l ∈ encodePair p :: pairs.map encodePair, '\n' ∉ l := by
      intro l hl
      obtain ⟨q, -, rfl⟩ := List.mem_map.1 (List.map_cons ▸ hl)
      exact feed_notMem_encodePair q
    rw [List.map_cons, splitLines_joinLines whole, ← List.map_cons]
    exact decodeLines_encodePair (p :: pairs) 1

end DataMapper.Text
