import DataMapper.Proofs.Results
import DataMapper.Proofs.Text.Pairs
import Mathlib.Data.List.TakeWhile

/-!
# Lines that are read as pairs

Any text can be read as a list of pairs, not only one that has been written for such a list. It is
cut at its line feeds, and each line that is not empty has to hold a pair. Whether a character is
escaped is told from the backslashes in front of it: it is exactly if their number is odd. A line
holds a pair if some equals sign on it is not escaped and nothing is escaped behind its end.

## Main definitions

* `Escapes` — a text behind which a character is escaped.
* `StandsFor` — an escaped text and the text that it stands for.
* `HoldsPair` — a line and its key and value.
* `IsFirstFault` — the first line that holds no pair, and why.

## Main statements

* `readPair_eq_ok_iff`, `readPair_eq_iff` — what is read from a line.
* `isReadable_iff` — which lines hold a pair.
* `decodePairs_reads_lines` — what is read from a text.
-/

namespace DataMapper.Text

/-! ## Escaped characters -/

/-- The number of backslashes at the end. -/
def slashes (cs : List Char) : Nat := (cs.reverse.takeWhile (· == '\\')).length

/-- A character behind this text is escaped. -/
def Escapes (front : List Char) : Prop := slashes front % 2 = 1

instance : DecidablePred Escapes := fun front => inferInstanceAs (Decidable (slashes front % 2 = 1))

theorem slashes_cons (c : Char) (cs : List Char) :
    slashes (c :: cs) =
      if slashes cs = cs.length then cs.length + (if c = '\\' then 1 else 0) else slashes cs := by
  unfold slashes
  rw [List.reverse_cons, List.takeWhile_append, List.length_reverse]
  by_cases slash : c = '\\' <;> split <;> simp [slash]

theorem slashes_le_length (cs : List Char) : slashes cs ≤ cs.length := by
  simpa [slashes] using (List.takeWhile_prefix (· == '\\') (l := cs.reverse)).length_le

theorem not_escapes_nil : ¬ Escapes [] := by decide

/-- Only the backslashes behind the last other character count. -/
theorem escapes_append_cons_iff {c : Char} (plain : c ≠ '\\') (front cs : List Char) :
    Escapes (front ++ c :: cs) ↔ Escapes cs := by
  have kept : slashes (front ++ c :: cs) = slashes cs := by
    simp only [slashes, List.reverse_append, List.reverse_cons, List.append_assoc,
      List.singleton_append]
    rw [List.takeWhile_append, List.takeWhile_cons_of_neg (by simpa using plain)]
    split
    · next whole => rw [List.append_nil, whole]
    · rfl
  rw [Escapes, kept, Escapes]

theorem escapes_cons_iff {c : Char} (plain : c ≠ '\\') (cs : List Char) :
    Escapes (c :: cs) ↔ Escapes cs :=
  escapes_append_cons_iff plain [] cs

/-- A backslash takes the character behind it along, also if that is a backslash. -/
theorem escapes_pair_iff (c : Char) (cs : List Char) :
    Escapes ('\\' :: c :: cs) ↔ Escapes cs := by
  have bound := slashes_le_length cs
  simp only [Escapes, slashes_cons, List.length_cons]
  by_cases whole : slashes cs = cs.length
  · by_cases slash : c = '\\' <;> simp [whole, slash]
    omega
  · rw [if_neg whole, if_neg (by omega)]

/-! ## Escaped texts -/

/-- The escaped text stands for the other one. -/
inductive StandsFor : List Char → List Char → Prop where
  | nil : StandsFor [] []
  | plain {c : Char} {cs ds : List Char} (plain : c ≠ '\\') (rest : StandsFor cs ds) :
      StandsFor (c :: cs) (c :: ds)
  | lineFeed {cs ds : List Char} (rest : StandsFor cs ds) :
      StandsFor ('\\' :: 'n' :: cs) ('\n' :: ds)
  | carriageReturn {cs ds : List Char} (rest : StandsFor cs ds) :
      StandsFor ('\\' :: 'r' :: cs) ('\r' :: ds)
  | escaped {c : Char} {cs ds : List Char} (feed : c ≠ 'n') (return_ : c ≠ 'r')
      (rest : StandsFor cs ds) : StandsFor ('\\' :: c :: cs) (c :: ds)

variable {cs ds key value line : List Char}

/-- A character with which no escape begins. -/
theorem ne_slash_of_unpaired {c : Char} (alone : c = '\\' → cs = [] → False)
    (pair : ∀ d ds, c = '\\' → cs = d :: ds → False) : c ≠ '\\' := by
  rintro rfl
  cases cs with
  | nil => exact alone rfl rfl
  | cons d cs => exact pair d cs rfl rfl

theorem StandsFor.pair (c : Char) (rest : StandsFor cs ds) :
    StandsFor ('\\' :: c :: cs) (unescapePairChar c :: ds) := by
  unfold unescapePairChar
  split
  · exact rest.lineFeed
  · exact rest.carriageReturn
  · next feed return_ => exact rest.escaped feed return_

theorem unescapePairText_of_standsFor (h : StandsFor cs ds) : unescapePairText cs = some ds := by
  induction h with
  | nil => rfl
  | plain plain _ ih => rw [unescapePairText_plain plain, ih, Option.map_some]
  | lineFeed _ ih | carriageReturn _ ih => rw [unescapePairText, ih]; rfl
  | escaped feed return_ _ ih =>
    rw [unescapePairText, ih, Option.map_some, unescapePairChar]
    · exact feed
    · exact return_

theorem standsFor_of_unescapePairText (h : unescapePairText cs = some ds) : StandsFor cs ds := by
  fun_induction unescapePairText cs generalizing ds with
  | case1 =>
    cases h
    exact .nil
  | case2 => cases h
  | case3 c cs ih =>
    obtain ⟨es, rest, rfl⟩ := Option.map_eq_some_iff.1 h
    exact (ih rest).pair c
  | case4 c cs alone pair ih =>
    obtain ⟨es, rest, rfl⟩ := Option.map_eq_some_iff.1 h
    exact .plain (ne_slash_of_unpaired alone pair) (ih rest)

theorem unescapePairText_eq_some_iff : unescapePairText cs = some ds ↔ StandsFor cs ds :=
  ⟨standsFor_of_unescapePairText, unescapePairText_of_standsFor⟩

/-- A text stands for another one unless it ends in a backslash that escapes nothing. -/
theorem unescapePairText_eq_none_iff : unescapePairText cs = none ↔ Escapes cs := by
  fun_induction unescapePairText cs with
  | case1 => simp [not_escapes_nil]
  | case2 => exact iff_of_true rfl (by decide)
  | case3 c cs ih => rw [Option.map_eq_none_iff, ih, escapes_pair_iff]
  | case4 c cs alone pair ih =>
    rw [Option.map_eq_none_iff, ih, escapes_cons_iff (ne_slash_of_unpaired alone pair)]

/-! ## Lines -/

/-- The line is cut at an equals sign that is not escaped. -/
def IsCut (line key value : List Char) : Prop := line = key ++ '=' :: value ∧ ¬ Escapes key

/-- The line is cut at the first equals sign that is not escaped. -/
structure IsFirstCut (line key value : List Char) : Prop where
  cut : IsCut line key value
  first : ∀ k v, IsCut line k v → key.length ≤ k.length

def HasSeparator (line : List Char) : Prop := ∃ key value, IsCut line key value

/-- The line can be read: it has a separator, and nothing behind its end is escaped. -/
def IsReadable (line : List Char) : Prop := HasSeparator line ∧ ¬ Escapes line

/-- What stands before the first separator stands for the key, and the rest for the value. -/
def HoldsPair (line : List Char) (p : List Char × List Char) : Prop :=
  ∃ key value, IsFirstCut line key value ∧ StandsFor key p.1 ∧ StandsFor value p.2

/-- Why a line is read as a pair, or not. -/
def Explains (line : List Char) : Except PairFault (List Char × List Char) → Prop
  | .ok p => HoldsPair line p ∧ ¬ Escapes line
  | .error .danglingEscape => Escapes line
  | .error .missingSeparator => ¬ HasSeparator line ∧ ¬ Escapes line

theorem isFirstCut_separator : IsFirstCut ('=' :: cs) [] cs :=
  ⟨⟨rfl, not_escapes_nil⟩, fun _ _ _ => Nat.zero_le _⟩

theorem IsFirstCut.unique {k v : List Char} (h : IsFirstCut line key value)
    (h' : IsFirstCut line k v) : key = k ∧ value = v := by
  have length : key.length = k.length :=
    Nat.le_antisymm (h.first k v h'.cut) (h'.first key value h.cut)
  obtain ⟨rfl, same⟩ := List.append_inj (h.cut.1.symm.trans h'.cut.1) length
  exact ⟨rfl, (List.cons.inj same).2⟩

/-- A line holds one pair only. -/
theorem HoldsPair.unique {p q : List Char × List Char} (h : HoldsPair line p)
    (h' : HoldsPair line q) : p = q := by
  obtain ⟨key, value, cut, left, right⟩ := h
  obtain ⟨k, v, cut', left', right'⟩ := h'
  obtain ⟨rfl, rfl⟩ := cut.unique cut'
  rw [← unescapePairText_eq_some_iff] at left left' right right'
  rw [left, Option.some.injEq] at left'
  rw [right, Option.some.injEq] at right'
  exact Prod.ext left' right'

/-- One character of a key: itself, or a backslash and a character that stands for it. -/
inductive Symbol : List Char → Char → Prop where
  | plain {c : Char} (slash : c ≠ '\\') (separator : c ≠ '=') : Symbol [c] c
  | pair (c : Char) : Symbol ['\\', c] (unescapePairChar c)

namespace Symbol

variable {lead : List Char} {c : Char} (h : Symbol lead c)
include h

theorem escapes_iff : Escapes (lead ++ cs) ↔ Escapes cs := by
  cases h with
  | plain slash _ => exact escapes_cons_iff slash cs
  | pair c => exact escapes_pair_iff c cs

theorem standsFor (rest : StandsFor cs ds) : StandsFor (lead ++ cs) (c :: ds) := by
  cases h with
  | plain slash _ => exact rest.plain slash
  | pair c => exact rest.pair c

/-- A symbol holds no separator. -/
theorem ne_cut (free : ¬ Escapes key) (rest : List Char) : lead ≠ key ++ '=' :: rest := by
  cases h with
  | plain _ separator =>
    intro whole
    obtain ⟨-, same⟩ | ⟨k, -, none⟩ := List.cons_eq_append_iff.1 whole
    · exact separator (List.cons.inj same).1.symm
    · simp at none
  | pair c =>
    intro whole
    obtain ⟨-, same⟩ | ⟨k, rfl, single⟩ := List.cons_eq_append_iff.1 whole
    · exact absurd (List.cons.inj same).1 (by decide)
    · obtain ⟨rfl, -⟩ | ⟨k, -, none⟩ := List.cons_eq_append_iff.1 single
      · exact free (by decide)
      · simp at none

theorem exists_of_isCut (cut : IsCut (lead ++ cs) key value) :
    ∃ k, key = lead ++ k ∧ IsCut cs k value := by
  obtain ⟨split, free⟩ := cut
  obtain ⟨k, rfl, rest⟩ | ⟨inner, whole, rest⟩ := List.append_eq_append_iff.1 split
  · exact ⟨k, rfl, rest, by rwa [h.escapes_iff] at free⟩
  · cases inner with
    | nil => exact ⟨[], by simpa using whole.symm, rest.symm, not_escapes_nil⟩
    | cons s inner =>
      obtain ⟨rfl, -⟩ := List.cons.inj rest
      exact absurd whole (h.ne_cut free inner)

theorem isCut (cut : IsCut cs key value) : IsCut (lead ++ cs) (lead ++ key) value := by
  obtain ⟨rfl, free⟩ := cut
  exact ⟨by rw [List.append_assoc], by rwa [h.escapes_iff]⟩

theorem isFirstCut (cut : IsFirstCut cs key value) :
    IsFirstCut (lead ++ cs) (lead ++ key) value := by
  refine ⟨h.isCut cut.cut, fun k v other => ?_⟩
  obtain ⟨k, rfl, rest⟩ := h.exists_of_isCut other
  simpa using cut.first k v rest

/-- A symbol in front of a line becomes the first character of the key. -/
theorem explains {r : Except PairFault (List Char × List Char)} (rest : Explains cs r) :
    Explains (lead ++ cs) (r.map fun p => (c :: p.1, p.2)) := by
  match r with
  | .ok (k, v) =>
    obtain ⟨⟨key, value, cut, left, right⟩, free⟩ := rest
    exact ⟨⟨lead ++ key, value, h.isFirstCut cut, h.standsFor left, right⟩,
      by rwa [h.escapes_iff]⟩
  | .error .danglingEscape => exact h.escapes_iff.2 rest
  | .error .missingSeparator =>
    obtain ⟨none, free⟩ := rest
    refine ⟨?_, by rwa [h.escapes_iff]⟩
    rintro ⟨key, value, cut⟩
    obtain ⟨k, -, cut⟩ := h.exists_of_isCut cut
    exact none ⟨k, value, cut⟩

end Symbol

theorem explains_readPair (line : List Char) : Explains line (readPair line) := by
  -- The reader takes symbols of the key, until a separator leaves the rest to the value.
  fun_induction readPair line with
  | case1 =>
    refine ⟨?_, not_escapes_nil⟩
    rintro ⟨key, value, none, -⟩
    simp at none
  | case2 => exact (by decide : Escapes ['\\'])
  | case3 c cs ih => exact (Symbol.pair c).explains ih
  | case4 cs none => exact (escapes_cons_iff (by decide) cs).2 (unescapePairText_eq_none_iff.1 none)
  | case5 cs value read =>
    have stands := unescapePairText_eq_some_iff.1 read
    refine ⟨⟨[], cs, isFirstCut_separator, .nil, stands⟩, ?_⟩
    rw [escapes_cons_iff (by decide), ← unescapePairText_eq_none_iff, read]
    exact Option.some_ne_none _
  | case6 c cs alone pair separator ih =>
    exact (Symbol.plain (ne_slash_of_unpaired alone pair) separator).explains ih

theorem HoldsPair.isReadable {p : List Char × List Char} (h : HoldsPair line p) :
    IsReadable line := by
  obtain ⟨key, value, ⟨⟨rfl, free⟩, -⟩, -, right⟩ := h
  refine ⟨⟨key, value, rfl, free⟩, ?_⟩
  rw [escapes_append_cons_iff (by decide), ← unescapePairText_eq_none_iff,
    unescapePairText_of_standsFor right]
  exact Option.some_ne_none _

/-- A line has one explanation only. -/
theorem Explains.unique {r r' : Except PairFault (List Char × List Char)} (h : Explains line r)
    (h' : Explains line r') : r = r' := by
  match r, r' with
  | .ok p, .ok q => rw [h.1.unique h'.1]
  | .ok p, .error .danglingEscape => exact absurd h' h.2
  | .ok p, .error .missingSeparator => exact absurd h.1.isReadable.1 h'.1
  | .error .danglingEscape, .ok q => exact absurd h h'.2
  | .error .danglingEscape, .error .danglingEscape => rfl
  | .error .danglingEscape, .error .missingSeparator => exact absurd h h'.2
  | .error .missingSeparator, .ok q => exact absurd h'.1.isReadable.1 h.1
  | .error .missingSeparator, .error .danglingEscape => exact absurd h' h.2
  | .error .missingSeparator, .error .missingSeparator => rfl

theorem readPair_eq_iff {r : Except PairFault (List Char × List Char)} :
    readPair line = r ↔ Explains line r :=
  ⟨fun read => read ▸ explains_readPair line, (explains_readPair line).unique⟩

theorem readPair_eq_ok_iff {p : List Char × List Char} :
    readPair line = .ok p ↔ HoldsPair line p :=
  readPair_eq_iff.trans ⟨And.left, fun h => ⟨h, h.isReadable.2⟩⟩

theorem isReadable_iff : IsReadable line ↔ ∃ p, HoldsPair line p := by
  refine ⟨fun ⟨separator, free⟩ => ?_, fun ⟨p, h⟩ => h.isReadable⟩
  match read : readPair line with
  | .ok p => exact ⟨p, readPair_eq_ok_iff.1 read⟩
  | .error .danglingEscape => exact absurd (readPair_eq_iff.1 read) free
  | .error .missingSeparator => exact absurd separator (readPair_eq_iff.1 read).1

theorem Explains.not_isReadable {fault : PairFault} (h : Explains line (.error fault)) :
    ¬ IsReadable line := by
  rintro ⟨separator, free⟩
  cases fault with
  | danglingEscape => exact free h
  | missingSeparator => exact h.1 separator

/-! ## Texts -/

/-- The line holds this key and this value. -/
def HoldsStrings (line : List Char) (p : String × String) : Prop :=
  HoldsPair line (p.1.toList, p.2.toList)

/-- The first line, counted from `number`, that is neither empty nor can be read. -/
def IsFirstFault (number : Nat) (lines : List (List Char)) (e : PairsError) : Prop :=
  ∃ before line behind, lines = before ++ line :: behind ∧
    (∀ l ∈ before, l ≠ [] → IsReadable l) ∧ line ≠ [] ∧
    e.line = number + before.length ∧ Explains line (.error e.fault)

variable {number : Nat} {lines : List (List Char)}

theorem isFirstFault_cons_iff {e : PairsError} :
    IsFirstFault number (line :: lines) e ↔
      (line ≠ [] ∧ e.line = number ∧ Explains line (.error e.fault)) ∨
        ((line ≠ [] → IsReadable line) ∧ IsFirstFault (number + 1) lines e) := by
  constructor
  · rintro ⟨before, l, behind, split, fine, some, place, fault⟩
    obtain ⟨rfl, same⟩ | ⟨before, rfl, rfl⟩ := List.cons_eq_append_iff.1 split
    · obtain ⟨rfl, rfl⟩ := List.cons.inj same
      exact .inl ⟨some, place, fault⟩
    · obtain ⟨first, fine⟩ := List.forall_mem_cons.1 fine
      rw [List.length_cons] at place
      exact .inr ⟨first, before, l, behind, rfl, fine, some, by omega, fault⟩
  · rintro (⟨some, place, fault⟩ | ⟨first, before, l, behind, rfl, fine, some, place, fault⟩)
    · exact ⟨[], line, lines, rfl, by simp, some, place, fault⟩
    · exact ⟨line :: before, l, behind, rfl, List.forall_mem_cons.2 ⟨first, fine⟩, some,
        by rw [List.length_cons]; omega, fault⟩

theorem decodeLines_eq_error_iff {e : PairsError} :
    decodeLines number lines = .error e ↔ IsFirstFault number lines e := by
  induction lines generalizing number with
  | nil => simp [decodeLines, IsFirstFault]
  | cons line lines ih =>
    rw [isFirstFault_cons_iff, ← ih, decodeLines]
    by_cases empty : line = []
    · simp [empty]
    · rw [if_neg (by simpa using empty), and_iff_right empty, imp_iff_right empty,
        ← readPair_eq_iff]
      cases read : readPair line with
      | error fault =>
        have unreadable : ¬ IsReadable line := (readPair_eq_iff.1 read).not_isReadable
        obtain ⟨n, f⟩ := e
        simp [unreadable, eq_comm]
      | ok pair =>
        have readable : IsReadable line := (readPair_eq_ok_iff.1 read).isReadable
        simp [Except.map_eq_error_iff, readable]

/-- The pairs are those on the lines that are not empty, in the order of the lines. -/
theorem decodeLines_eq_ok_iff {pairs : List (String × String)} :
    decodeLines number lines = .ok pairs ↔
      List.Forall₂ HoldsStrings (lines.filter (· ≠ [])) pairs := by
  induction lines generalizing number pairs with
  | nil => simp [decodeLines, eq_comm]
  | cons line lines ih =>
    rw [decodeLines]
    by_cases empty : line = []
    · simp [empty, ih]
    · rw [if_neg (by simpa using empty), List.filter_cons_of_pos (by simpa using empty),
        List.forall₂_cons_left_iff]
      cases read : readPair line with
      | error fault =>
        simp only [reduceCtorEq, false_iff]
        rintro ⟨p, rest, pair, -⟩
        rw [readPair_eq_ok_iff.2 pair] at read
        cases read
      | ok found =>
        have pair := readPair_eq_ok_iff.1 read
        simp only [Except.map_eq_ok_iff, ih]
        constructor
        · rintro ⟨rest, others, rfl⟩
          exact ⟨_, rest, by simpa [HoldsStrings] using pair, others, rfl⟩
        · rintro ⟨p, rest, same, others, rfl⟩
          obtain rfl : found = (p.1.toList, p.2.toList) := pair.unique same
          exact ⟨rest, others, by simp⟩

theorem exists_decodeLines_eq_ok_iff :
    (∃ pairs, decodeLines number lines = .ok pairs) ↔
      ∀ line ∈ lines, line ≠ [] → IsReadable line := by
  cases read : decodeLines number lines with
  | ok pairs =>
    have held : List.Forall₂ (fun line p => IsReadable line ∧ HoldsStrings line p)
        (lines.filter (· ≠ [])) pairs :=
      (decodeLines_eq_ok_iff.1 read).imp fun line p pair => ⟨pair.isReadable, pair⟩
    refine iff_of_true ⟨pairs, rfl⟩ fun line mem some => ?_
    exact ((List.forall₂_and_left _ _).1 held).1 line (by simpa using ⟨mem, some⟩)
  | error e =>
    obtain ⟨before, line, behind, rfl, -, some, -, fault⟩ := decodeLines_eq_error_iff.1 read
    refine iff_of_false (by rintro ⟨pairs, ⟨⟩⟩) fun readable => ?_
    exact fault.not_isReadable (readable line (by simp) some)

theorem splitLines_eq_splitOn (cs : List Char) : splitLines cs = cs.splitOn '\n' := by
  induction cs with
  | nil => rfl
  | cons c cs ih =>
    rw [List.splitOn_cons_eq_if_modifyHead]
    by_cases feed : c = '\n'
    · rw [if_pos (beq_iff_eq.2 feed), ← ih, feed]
      rfl
    · obtain ⟨line, lines, pieces⟩ := List.exists_cons_of_ne_nil (List.splitOn_ne_nil '\n' cs)
      rw [if_neg (by simpa using feed), pieces, splitLines_plain feed (ih.trans pieces)]
      rfl

/-- A text is read as a list of pairs exactly if each of its lines is empty or holds a pair. The
pairs are those on the lines; if there is a line that holds none, the first such line is named, and
that something is escaped behind its end rather than that it has no separator. -/
theorem decodePairs_reads_lines (text : String) :
    let lines := text.toList.splitOn '\n'
    ((∃ pairs, decodePairs text = .ok pairs) ↔ ∀ line ∈ lines, line ≠ [] → IsReadable line) ∧
    (∀ pairs, decodePairs text = .ok pairs ↔
      List.Forall₂ HoldsStrings (lines.filter (· ≠ [])) pairs) ∧
    (∀ e, decodePairs text = .error e ↔ IsFirstFault 1 lines e) := by
  intro lines
  have split : decodePairs text = decodeLines 1 lines := by
    rw [decodePairs, splitLines_eq_splitOn]
  rw [split]
  exact ⟨exists_decodeLines_eq_ok_iff, fun pairs => decodeLines_eq_ok_iff,
    fun e => decodeLines_eq_error_iff⟩

/-- Escaped backslashes, separators in a value, and a carriage return. -/
example : decodePairs "a\\\\=b=c\r\n\nk\\==" = .ok [("a\\", "b=c\r"), ("k=", "")] := by
  decide +kernel

end DataMapper.Text
