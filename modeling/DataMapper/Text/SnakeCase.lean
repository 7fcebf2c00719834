import DataMapper.Text.LetterCase

/-!
# Snake case

A name split into its words, which are written in small letters with underscores between them. A
word ends before any character that is neither letter nor digit, before a capital that follows a
small letter, and before the last of several capitals when a small letter follows it.

## Main definitions

* `nameWords` — the words of a name.
* `snakeCase` — the name written with them.
-/

namespace DataMapper.Text

/-- The case of the last letter of a word so far. -/
inductive LetterMode where
  | none | lower | upper
  deriving DecidableEq, Repr

def LetterMode.after (m : LetterMode) (c : Char) : LetterMode :=
  if isLowercase c then lower else if isUppercase c then upper else m

/-- The words of letters and digits; `word` is the beginning of the first. -/
def splitCapitals (m : LetterMode) (word : List Char) : List Char → List (List Char)
  | [] => []
  | [c] => [word ++ [c]]
  | c :: next :: cs =>
    if m.after c = .lower && isUppercase next then
      (word ++ [c]) :: splitCapitals .none [] (next :: cs)
    else if m = .upper && isUppercase c && isLowercase next then
      word :: splitCapitals .none [c] (next :: cs)
    else splitCapitals (m.after c) (word ++ [c]) (next :: cs)

/-- The parts of a text between characters that are neither letters nor digits. -/
def alphanumericParts : List Char → List (List Char)
  | [] => [[]]
  | c :: cs =>
    match alphanumericParts cs with
    | [] => []
    | part :: parts => if isAlphanumeric c then (c :: part) :: parts else [] :: part :: parts

def nameWords (name : List Char) : List (List Char) :=
  (alphanumericParts name).flatMap (splitCapitals .none [])

/-- A word in small letters. A sigma at its end has a form of its own. -/
def lowerWord : List Char → List Char
  | [] => []
  | ['Σ'] => ['ς']
  | c :: cs => lower c ++ lowerWord cs

def snakeCase (name : String) : String :=
  String.ofList (['_'].intercalate ((nameWords name.toList).map lowerWord))

end DataMapper.Text
