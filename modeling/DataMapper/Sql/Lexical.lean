import DataMapper.Text.Alphanumeric
import DataMapper.Text.Utf8

/-!
# Lexical regions of SQL text

Text inside quotes, comments and dollar-quoted bodies is data or remark; the rest is live. A scan
reads the characters from left to right and keeps in a `Mode` what it has to know of those before.
A region that is never closed runs to the end of the text.

## Main definitions

* `Mode.step` — one character of the scan.
* `placeholderOffsets` — where the live question marks stand.
* `substitute` — live question marks replaced, from left to right, by given texts.
* `numberPlaceholders` — live question marks replaced by `$1`, `$2`, and so on.
-/

namespace DataMapper.Sql

open Text

/-- What a scan knows after some characters. -/
inductive Mode where
  /-- Live text. -/
  | plain
  /-- Live text, right after a hyphen. -/
  | hyphen
  /-- Live text, right after a slash. -/
  | slash
  /-- Live text, right after a dollar sign and the characters of a possible tag. -/
  | tag (name : List Char)
  /-- Inside quotes; a doubled quote closes them and opens them again. -/
  | quoted (quote : Char)
  | lineComment
  /-- Inside a block comment; `star` right after an asterisk that may close it. -/
  | blockComment (star : Bool)
  /-- Inside a dollar-quoted body that ends with `delimiter`, of which `missing` is still to be
  seen. -/
  | body (delimiter missing : List Char)
  deriving DecidableEq, Repr

namespace Mode

/-- The next character of live text that nothing before it joins. -/
def enter (c : Char) : Mode :=
  match c with
  | '\'' => quoted '\''
  | '"' => quoted '"'
  | '-' => hyphen
  | '/' => slash
  | '$' => tag []
  | _ => plain

/-- The next character of a dollar-quoted body. A delimiter has dollar signs at its two ends only,
so a match that breaks off can begin again with the breaking character at the earliest. -/
def bodyStep (delimiter missing : List Char) (c : Char) : Mode :=
  match missing with
  | [] => plain
  | d :: rest =>
    if c = d then if rest.isEmpty then plain else body delimiter rest
    else if c = '$' then body delimiter delimiter.tail
    else body delimiter delimiter

def step : Mode → Char → Mode
  | plain, c => enter c
  | hyphen, c => if c = '-' then lineComment else enter c
  | slash, c => if c = '*' then blockComment false else enter c
  | tag name, c =>
    if c = '$' then
      let delimiter := '$' :: name ++ ['$']
      body delimiter delimiter
    else if isNameChar c && !(name.isEmpty && c.isDigit) then tag (name ++ [c])
    else enter c
  | quoted q, c => if c = q then plain else quoted q
  | lineComment, c => if c = '\n' then plain else lineComment
  | blockComment star, c => if star && c == '/' then plain else blockComment (c == '*')
  | body delimiter missing, c => bodyStep delimiter missing c

/-- Is the character that comes next live, unless it opens a region? -/
def isLive : Mode → Bool
  | plain | hyphen | slash | tag _ => true
  | _ => false

/-- The mode after more text. -/
def run (m : Mode) (cs : List Char) : Mode :=
  cs.foldl step m

@[simp] theorem run_nil (m : Mode) : m.run [] = m := rfl

@[simp] theorem run_cons (m : Mode) (c : Char) (cs : List Char) :
    m.run (c :: cs) = (m.step c).run cs := rfl

theorem run_append (m : Mode) (a b : List Char) : m.run (a ++ b) = (m.run a).run b := by
  simp [run]

end Mode

/-- Is a character a placeholder in this mode? -/
def isPlaceholder (m : Mode) (c : Char) : Bool :=
  m.isLive && c == '?'

/-- The byte offsets of the placeholders in text that begins at `offset` in mode `m`. -/
def offsetsFrom (m : Mode) (offset : Nat) : List Char → List Nat
  | [] => []
  | c :: cs =>
    let rest := offsetsFrom (m.step c) (offset + c.utf8Size) cs
    if isPlaceholder m c then offset :: rest else rest

def placeholderOffsets (sql : String) : List Nat :=
  offsetsFrom .plain 0 sql.toList

def placeholderCount (m : Mode) : List Char → Nat
  | [] => 0
  | c :: cs => placeholderCount (m.step c) cs + if isPlaceholder m c then 1 else 0

/-- The text with its placeholders replaced from left to right; those for which no text is left
stay. -/
def substitute (m : Mode) : List (List Char) → List Char → List Char
  | _, [] => []
  | texts, c :: cs =>
    match isPlaceholder m c, texts with
    | true, t :: ts => t ++ substitute (m.step c) ts cs
    | _, texts => c :: substitute (m.step c) texts cs

theorem length_offsetsFrom (m : Mode) (offset : Nat) (cs : List Char) :
    (offsetsFrom m offset cs).length = placeholderCount m cs := by
  induction cs generalizing m offset with
  | nil => rfl
  | cons c cs ih => by_cases h : isPlaceholder m c = true <;> simp [offsetsFrom, placeholderCount, h, ih]

theorem offsetsFrom_append (m : Mode) (offset : Nat) (a b : List Char) :
    offsetsFrom m offset (a ++ b) =
      offsetsFrom m offset a ++ offsetsFrom (m.run a) (offset + byteLength a) b := by
  induction a generalizing m offset with
  | nil => simp [offsetsFrom]
  | cons c a ih =>
    by_cases h : isPlaceholder m c = true <;> simp [offsetsFrom, h, ih, Nat.add_assoc]

theorem placeholderCount_append (m : Mode) (a b : List Char) :
    placeholderCount m (a ++ b) = placeholderCount m a + placeholderCount (m.run a) b := by
  induction a generalizing m with
  | nil => simp [placeholderCount]
  | cons c a ih => simp only [List.cons_append, placeholderCount, ih, Mode.run_cons]; omega

/-- The numbered parameter marks `$1`, `$2`, …. -/
def numberedMarks (n : Nat) : List (List Char) :=
  (List.range n).map fun k => '$' :: Nat.toDigits 10 (k + 1)

/-- The text with the `k`-th placeholder written `$k`, counted from one. -/
def numberPlaceholders (sql : String) : String :=
  String.ofList
    (substitute .plain (numberedMarks (placeholderCount .plain sql.toList)) sql.toList)

end DataMapper.Sql
