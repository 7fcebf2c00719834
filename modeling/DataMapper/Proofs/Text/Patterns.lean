import DataMapper.Text.Like

/-!
# What a pattern matches

A pattern is a sequence of items: a percent sign stands for any run of characters, an underscore for
any one character, and everything else for itself, after a backslash these three as well. The
pattern of a text matches whatever holds the words of the text in their order.

## Main definitions

* `Text.IsSpaced` — words with the blanks around them.
* `Text.likeItems`, `Text.Like` — the items of a pattern, and the texts that it matches.
* `Text.OccurIn` — words that occur in a text, one behind the other.

## Main statements

* `Text.words_eq_iff` — the words of a text are what its blanks leave.
* `Text.like_likePattern` — what the pattern of a text matches.
-/

namespace DataMapper.Text

/-! ## Words -/

/-- Nothing but the words, each of them between blanks or the ends of the text. -/
def IsSpaced : List (List Char) → List Char → Prop
  | [], cs => ∀ c ∈ cs, isBlank c = true
  | w :: ws, cs => ∃ before behind, cs = before ++ w ++ behind ∧
      (∀ c ∈ before, isBlank c = true) ∧ w ≠ [] ∧ (∀ c ∈ w, isBlank c = false) ∧
      (∀ c ∈ behind.head?, isBlank c = true) ∧ IsSpaced ws behind

theorem words_append_of_blank {before : List Char} (blank : ∀ c ∈ before, isBlank c = true)
    (cs : List Char) : words (before ++ cs) = words cs := by
  induction before with
  | nil => rfl
  | cons c before ih =>
    obtain ⟨first, rest⟩ := List.forall_mem_cons.1 blank
    rw [List.cons_append, words, wordsFrom, if_pos first]
    exact ih rest

/-- A run of characters that are not blank ends the word that has been begun. -/
theorem wordsFrom_append {current w behind : List Char} (ne : current ≠ [] ∨ w ≠ [])
    (solid : ∀ c ∈ w, isBlank c = false) (ends : ∀ c ∈ behind.head?, isBlank c = true) :
    wordsFrom current (w ++ behind) = (current.reverse ++ w) :: words behind := by
  induction w generalizing current with
  | nil =>
    have begun : current ≠ [] := ne.resolve_right fun none => none rfl
    cases behind with
    | nil => simp [wordsFrom, words, begun]
    | cons c behind => simp [wordsFrom, words, begun, ends c rfl]
  | cons c w ih =>
    obtain ⟨letter, rest⟩ := List.forall_mem_cons.1 solid
    rw [List.cons_append, wordsFrom, if_neg (by simp [letter]),
      ih (.inl (List.cons_ne_nil c current)) rest]
    simp

theorem IsSpaced.cons_blank {c : Char} (blank : isBlank c = true) {ws : List (List Char)}
    {cs : List Char} (h : IsSpaced ws cs) : IsSpaced ws (c :: cs) := by
  cases ws with
  | nil => exact List.forall_mem_cons.2 ⟨blank, h⟩
  | cons w ws =>
    obtain ⟨before, behind, rfl, blanks, rest⟩ := h
    exact ⟨c :: before, behind, rfl, List.forall_mem_cons.2 ⟨blank, blanks⟩, rest⟩

theorem isSpaced_wordsFrom {current : List Char} (solid : ∀ c ∈ current, isBlank c = false)
    (cs : List Char) : IsSpaced (wordsFrom current cs) (current.reverse ++ cs) := by
  -- the word that has been begun ends before `behind`
  have ended {current behind : List Char} {ws : List (List Char)}
      (solid : ∀ c ∈ current, isBlank c = false) (begun : ¬ current.isEmpty = true)
      (ends : ∀ c ∈ behind.head?, isBlank c = true) (rest : IsSpaced ws behind) :
      IsSpaced (current.reverse :: ws) (current.reverse ++ behind) :=
    ⟨[], behind, rfl, by simp, by simpa using begun, by simpa using solid, ends, rest⟩
  induction cs generalizing current with
  | nil =>
    rw [wordsFrom]
    split
    · next none => simp [List.isEmpty_iff.1 none, IsSpaced]
    · next begun => exact ended solid begun (by simp) (by simp [IsSpaced])
  | cons c cs ih =>
    rw [wordsFrom]
    split
    · next blank =>
      have rest : IsSpaced (wordsFrom [] cs) (c :: cs) := (ih (by simp)).cons_blank blank
      split
      · next none => simpa [List.isEmpty_iff.1 none] using rest
      · next begun => exact ended solid begun (by simpa using blank) rest
    · next letter =>
      have longer := ih (List.forall_mem_cons.2 ⟨Bool.eq_false_iff.2 letter, solid⟩)
      rwa [List.reverse_cons, List.append_assoc, List.singleton_append] at longer

/-- The words of a text are what its blanks leave. -/
theorem words_eq_iff {cs : List Char} {ws : List (List Char)} :
    words cs = ws ↔ IsSpaced ws cs := by
  constructor
  · rintro rfl
    exact isSpaced_wordsFrom (by simp) cs
  · intro h
    induction ws generalizing cs with
    | nil => exact words_eq_nil_iff.2 (List.all_eq_true.2 h)
    | cons w ws ih =>
      obtain ⟨before, behind, rfl, blanks, ne, solid, ends, rest⟩ := h
      rw [List.append_assoc, words_append_of_blank blanks, words,
        wordsFrom_append (.inr ne) solid ends, ih rest]
      rfl

theorem solid_of_mem_words {cs w : List Char} (h : w ∈ words cs) :
    w ≠ [] ∧ ∀ c ∈ w, isBlank c = false := by
  have spaced := words_eq_iff.1 (rfl : words cs = words cs)
  generalize words cs = ws at h spaced
  induction ws generalizing cs with
  | nil => cases h
  | cons v ws ih =>
    obtain ⟨_, behind, -, -, ne, solid, -, rest⟩ := spaced
    rcases List.mem_cons.1 h with rfl | later
    · exact ⟨ne, solid⟩
    · exact ih later rest

/-- A word of a text has itself as its only word. -/
theorem words_of_mem_words {cs w : List Char} (h : w ∈ words cs) : words w = [w] := by
  obtain ⟨ne, solid⟩ := solid_of_mem_words h
  exact words_eq_iff.2 ⟨[], [], by simp, by simp, ne, solid, by simp, by simp [IsSpaced]⟩

/-- The pattern of a word is the escaped word between percent signs. -/
theorem likePattern_of_mem_words {cs w : List Char} (h : w ∈ words cs) :
    likePattern (String.ofList w) = String.ofList ('%' :: escapeLike w ++ ['%']) := by
  rw [likePattern, String.toList_ofList, words_of_mem_words h]
  rfl

/-- Only blanks are left out of the words. -/
theorem flatten_words (cs : List Char) : (words cs).flatten = cs.filter (!isBlank ·) := by
  have spaced := words_eq_iff.1 (rfl : words cs = words cs)
  generalize words cs = ws at spaced
  have none {cs : List Char} (blank : ∀ c ∈ cs, isBlank c = true) :
      cs.filter (!isBlank ·) = [] := by
    simpa [List.filter_eq_nil_iff] using blank
  induction ws generalizing cs with
  | nil => exact (none spaced).symm
  | cons w ws ih =>
    obtain ⟨before, behind, rfl, blanks, -, solid, -, rest⟩ := spaced
    have all : w.filter (!isBlank ·) = w := by
      simpa [List.filter_eq_self] using solid
    rw [List.filter_append, List.filter_append, none blanks, all, List.nil_append,
      List.flatten_cons, ih behind rest]

/-! ## Items -/

/-- What a pattern consists of. -/
inductive LikeItem where
  | anyRun
  | anyChar
  | letter (c : Char)
  deriving DecidableEq, Repr

/-- The items of a pattern. A backslash at its end has nothing to stand before. -/
def likeItems : List Char → Option (List LikeItem)
  | [] => some []
  | ['\\'] => none
  | '\\' :: c :: cs => (likeItems cs).map (.letter c :: ·)
  | '%' :: cs => (likeItems cs).map (.anyRun :: ·)
  | '_' :: cs => (likeItems cs).map (.anyChar :: ·)
  | c :: cs => (likeItems cs).map (.letter c :: ·)

example : likeItems "%5\\%_%".toList =
    some [.anyRun, .letter '5', .letter '%', .anyChar, .anyRun] := rfl

namespace LikeItem

def letter? : LikeItem → Option Char
  | letter c => some c
  | _ => none

/-- The pieces of text that an item stands for. -/
def Covers : LikeItem → List Char → Prop
  | anyRun, _ => True
  | anyChar, s => ∃ c, s = [c]
  | letter c, s => s = [c]

/-- The text consists of pieces that the items stand for, in their order. -/
def Match : List LikeItem → List Char → Prop
  | [], s => s = []
  | i :: is, s => ∃ piece rest, s = piece ++ rest ∧ i.Covers piece ∧ Match is rest

theorem match_letters {is : List LikeItem} {w s : List Char} :
    Match (w.map letter ++ is) s ↔ ∃ rest, s = w ++ rest ∧ Match is rest := by
  induction w generalizing s with
  | nil => simp
  | cons c w ih =>
    constructor
    · rintro ⟨piece, rest, rfl, rfl, letters⟩
      obtain ⟨behind, rfl, matched⟩ := ih.1 letters
      exact ⟨behind, rfl, matched⟩
    · rintro ⟨rest, rfl, matched⟩
      exact ⟨[c], w ++ rest, rfl, rfl, ih.2 ⟨rest, rfl, matched⟩⟩

end LikeItem

open LikeItem

/-- The pattern matches the text. -/
def Like (pattern s : String) : Prop :=
  ∃ is, likeItems pattern.toList = some is ∧ Match is s.toList

theorem likeItems_escapeLikeChar (c : Char) (cs : List Char) :
    likeItems (escapeLikeChar c ++ cs) = (likeItems cs).map (.letter c :: ·) := by
  unfold escapeLikeChar
  split
  · rfl
  · next plain =>
    simp only [not_or] at plain
    obtain ⟨slash, percent, underscore⟩ := plain
    rw [List.singleton_append, likeItems]
    · rintro rfl
      exact absurd rfl slash
    · rintro d ds rfl
      exact absurd rfl slash
    · rintro rfl
      exact absurd rfl percent
    · rintro rfl
      exact absurd rfl underscore

/-- An escaped text consists of letters, whatever its characters are. -/
theorem likeItems_escapeLike (w cs : List Char) :
    likeItems (escapeLike w ++ cs) = (likeItems cs).map (w.map .letter ++ ·) := by
  induction w with
  | nil => simp [escapeLike]
  | cons c w ih =>
    rw [escapeLike, List.flatMap_cons, List.append_assoc, likeItems_escapeLikeChar]
    rw [escapeLike] at ih
    rw [ih, Option.map_map]
    rfl

/-- The items behind the first percent sign. -/
def tailItems (ws : List (List Char)) : List LikeItem :=
  ws.flatMap fun w => w.map .letter ++ [.anyRun]

theorem likeItems_likeTail (ws : List (List Char)) :
    likeItems (likeTail ws) = some (tailItems ws) := by
  induction ws with
  | nil => rfl
  | cons w ws ih =>
    rw [likeTail, likeItems_escapeLike, likeItems, ih]
    simp [tailItems]

/-- The items of the pattern of a text with these words. -/
def phraseItems : List (List Char) → List LikeItem
  | [] => [.anyRun, .anyRun]
  | ws => .anyRun :: tailItems ws

theorem likeItems_likePattern (text : String) :
    likeItems (likePattern text).toList = some (phraseItems (words text.toList)) := by
  unfold likePattern
  split
  · next none =>
    rw [none]
    rfl
  · next some =>
    rw [String.toList_ofList, likeItems, likeItems_likeTail]
    cases spoken : words text.toList with
    | nil => exact absurd spoken some
    | cons w ws => rfl

/-! ## Occurrences -/

/-- The words occur in the text in their order, none of them before the one in front has ended. -/
def OccurIn : List (List Char) → List Char → Prop
  | [], _ => True
  | w :: ws, s => ∃ before behind, s = before ++ w ++ behind ∧ OccurIn ws behind

/-- The gap before a word is what its percent sign stands for. -/
theorem match_tailItems {ws : List (List Char)} {s : List Char} :
    Match (.anyRun :: tailItems ws) s ↔ OccurIn ws s := by
  induction ws generalizing s with
  | nil => exact iff_of_true ⟨s, [], by simp, trivial, rfl⟩ trivial
  | cons w ws ih =>
    have next : tailItems (w :: ws) = w.map .letter ++ .anyRun :: tailItems ws := by
      simp [tailItems]
    rw [next]
    constructor
    · rintro ⟨before, rest, rfl, -, letters⟩
      obtain ⟨behind, rfl, matched⟩ := match_letters.1 letters
      exact ⟨before, behind, by rw [List.append_assoc], ih.1 matched⟩
    · rintro ⟨before, behind, rfl, occur⟩
      exact ⟨before, w ++ behind, by rw [List.append_assoc], trivial,
        match_letters.2 ⟨behind, rfl, ih.2 occur⟩⟩

theorem match_phraseItems {ws : List (List Char)} {s : List Char} :
    Match (phraseItems ws) s ↔ OccurIn ws s := by
  cases ws with
  | nil => exact iff_of_true ⟨s, [], by simp, trivial, [], [], rfl, trivial, rfl⟩ trivial
  | cons w ws => exact match_tailItems

theorem letters_phraseItems (ws : List (List Char)) :
    (phraseItems ws).filterMap letter? = ws.flatten := by
  have tail (ws : List (List Char)) : (tailItems ws).filterMap letter? = ws.flatten := by
    induction ws with
    | nil => rfl
    | cons w ws ih =>
      have own : (w.map LikeItem.letter).filterMap letter? = w := by
        simp [List.filterMap_map, Function.comp_def, letter?]
      rw [tailItems, List.flatMap_cons, List.filterMap_append, List.filterMap_append, own,
        List.flatten_cons]
      rw [tailItems] at ih
      simp [ih, letter?]
  cases ws with
  | nil => rfl
  | cons w ws => exact tail (w :: ws)

theorem anyChar_notMem_phraseItems (ws : List (List Char)) : anyChar ∉ phraseItems ws := by
  cases ws <;> simp [phraseItems, tailItems]

theorem not_occurIn_nil {ws : List (List Char)} (solid : ∀ w ∈ ws, w ≠ []) (some : ws ≠ []) :
    ¬ OccurIn ws [] := by
  obtain ⟨w, ws, rfl⟩ := List.exists_cons_of_ne_nil some
  rintro ⟨before, behind, none, -⟩
  refine solid w List.mem_cons_self ?_
  simp_all

/-- The pattern of a text matches a string exactly if the words of the text, which are what its
blanks leave, occur in it in their order. So it is blank texts that are found everywhere. The
characters of the text that are not blank are the letters of the pattern, whose other items stand
for any run. -/
theorem like_likePattern (text : String) :
    (∀ ws, IsSpaced ws text.toList ↔ words text.toList = ws) ∧
      (∀ s : String, Like (likePattern text) s ↔ OccurIn (words text.toList) s.toList) ∧
      ((∀ s, Like (likePattern text) s) ↔ isBlankText text = true) ∧
      ∃ is, likeItems (likePattern text).toList = some is ∧
        is.filterMap letter? = text.toList.filter (!isBlank ·) ∧ anyChar ∉ is := by
  have items := likeItems_likePattern text
  have means (s : String) : Like (likePattern text) s ↔ OccurIn (words text.toList) s.toList := by
    constructor
    · rintro ⟨is, read, matched⟩
      obtain rfl := Option.some.inj (read.symm.trans items)
      exact match_phraseItems.1 matched
    · intro occur
      exact ⟨_, items, match_phraseItems.2 occur⟩
  refine ⟨fun ws => words_eq_iff.symm, means, ⟨fun found => ?_, fun blank s => ?_⟩, _, items, ?_,
    anyChar_notMem_phraseItems _⟩
  · by_cases none : words text.toList = []
    · exact words_eq_nil_iff.1 none
    · have solid (w : List Char) (hw : w ∈ words text.toList) := (solid_of_mem_words hw).1
      exact absurd ((means "").1 (found "")) (not_occurIn_nil solid none)
  · rw [means, words_eq_nil_iff.2 blank]
    trivial
  · rw [letters_phraseItems, flatten_words]

end DataMapper.Text
