/-!
# Pairs of texts, one per line

A list of keys and values is written as one line `key=value` for each pair. A backslash escapes
the characters that would otherwise end a key, a value or a line, so every list of pairs has a
written form that reads back as the same list.

## Main definitions

* `encodePairs` — the written form of a list of pairs.
* `decodePairs` — the pairs of a text, or the first line that is not a pair.
-/

namespace DataMapper.Text

/-- What is wrong with a line. -/
inductive PairFault where
  | danglingEscape
  | missingSeparator
  deriving DecidableEq, Repr

/-- The first line that is not a pair, counted from one. -/
structure PairsError where
  line : Nat
  fault : PairFault
  deriving DecidableEq, Repr

def PairFault.message : PairFault → String
  | danglingEscape => "dangling escape"
  | missingSeparator => "missing '=' separator"

def PairsError.message (e : PairsError) : String :=
  s!"line {e.line}: {e.fault.message}"

/-! ## Writing -/

def escapePairChar : Char → List Char
  | '\\' => ['\\', '\\']
  | '=' => ['\\', '=']
  | '\n' => ['\\', 'n']
  | '\r' => ['\\', 'r']
  | c => [c]

def escapePairText (cs : List Char) : List Char :=
  cs.flatMap escapePairChar

def encodePair (p : String × String) : List Char :=
  escapePairText p.1.toList ++ '=' :: escapePairText p.2.toList

/-- The lines, with a line feed between each two. -/
def joinLines : List (List Char) → List Char
  | [] => []
  | [line] => line
  | line :: lines => line ++ '\n' :: joinLines lines

def encodePairs (pairs : List (String × String)) : String :=
  String.ofList (joinLines (pairs.map encodePair))

/-! ## Reading -/

/-- The pieces between line feeds. -/
def splitLines : List Char → List (List Char)
  | [] => [[]]
  | '\n' :: cs => [] :: splitLines cs
  | c :: cs =>
    match splitLines cs with
    | [] => [[c]]
    | line :: lines => (c :: line) :: lines

/-- What a character stands for after a backslash. -/
def unescapePairChar : Char → Char
  | 'n' => '\n'
  | 'r' => '\r'
  | c => c

/-- The text that an escaped piece stands for; `none` where it ends in a lone backslash. -/
def unescapePairText : List Char → Option (List Char)
  | [] => some []
  | ['\\'] => none
  | '\\' :: c :: cs => (unescapePairText cs).map (unescapePairChar c :: ·)
  | c :: cs => (unescapePairText cs).map (c :: ·)

/-- The key and the value on a line, cut at the first equals sign that no backslash escapes. -/
def readPair : List Char → Except PairFault (List Char × List Char)
  | [] => .error .missingSeparator
  | ['\\'] => .error .danglingEscape
  | '\\' :: c :: cs => (readPair cs).map fun p => (unescapePairChar c :: p.1, p.2)
  | '=' :: cs =>
    match unescapePairText cs with
    | none => .error .danglingEscape
    | some value => .ok ([], value)
  | c :: cs => (readPair cs).map fun p => (c :: p.1, p.2)

/-- The pairs on the lines from `number` on; empty lines are passed over. -/
def decodeLines (number : Nat) : List (List Char) → Except PairsError (List (String × String))
  | [] => .ok []
  | line :: lines =>
    if line.isEmpty then decodeLines (number + 1) lines
    else
      match readPair line with
      | .error fault => .error ⟨number, fault⟩
      | .ok (key, value) =>
        (decodeLines (number + 1) lines).map ((String.ofList key, String.ofList value) :: ·)

def decodePairs (encoded : String) : Except PairsError (List (String × String)) :=
  decodeLines 1 (splitLines encoded.toList)

end DataMapper.Text
