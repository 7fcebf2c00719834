/-!
# Blanks and words

Blank characters are those with the Unicode property `White_Space`.
-/

namespace DataMapper.Text

/-- The characters with the property `White_Space`. -/
def isBlank (c : Char) : Bool :=
  let n := c.toNat
  (0x09 ≤ n && n ≤ 0x0d) || n == 0x20 || n == 0x85 || n == 0xa0 || n == 0x1680 ||
    (0x2000 ≤ n && n ≤ 0x200a) || n == 0x2028 || n == 0x2029 || n == 0x202f || n == 0x205f ||
    n == 0x3000

def trimLeft (cs : List Char) : List Char :=
  cs.dropWhile isBlank

def trimRight (cs : List Char) : List Char :=
  (cs.reverse.dropWhile isBlank).reverse

/-- The text without the blanks at its two ends. -/
def trim (s : String) : String :=
  String.ofList (trimRight (trimLeft s.toList))

/-- A text of blanks only. -/
def isBlankText (s : String) : Bool :=
  s.toList.all isBlank

/-- The maximal runs of characters that are not blank, `current` being the run so far in
reverse. -/
def wordsFrom (current : List Char) : List Char → List (List Char)
  | [] => if current.isEmpty then [] else [current.reverse]
  | c :: cs =>
    if isBlank c then
      if current.isEmpty then wordsFrom [] cs else current.reverse :: wordsFrom [] cs
    else wordsFrom (c :: current) cs

/-- The words of a text: its maximal runs of characters that are not blank. -/
def words (cs : List Char) : List (List Char) :=
  wordsFrom [] cs

theorem wordsFrom_ne_nil {current : List Char} (h : current ≠ []) (cs : List Char) :
    wordsFrom current cs ≠ [] := by
  induction cs generalizing current with
  | nil => simp [wordsFrom, h]
  | cons c cs ih =>
    rw [wordsFrom]
    split
    · simp [h]
    · exact ih (by simp)

theorem words_eq_nil_iff {cs : List Char} : words cs = [] ↔ cs.all isBlank = true := by
  unfold words
  induction cs with
  | nil => simp [wordsFrom]
  | cons c cs ih =>
    by_cases hc : isBlank c = true
    · simp [wordsFrom, hc, ih]
    · have := @wordsFrom_ne_nil [c] (by simp) cs
      simp [wordsFrom, hc, this]

end DataMapper.Text
