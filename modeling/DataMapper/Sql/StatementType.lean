import DataMapper.Text.Blank

/-!
# Types of statements

What a statement does is told from its first keyword, behind blanks, comments and opening
parentheses. For a statement that begins with common table expressions it is told from the keyword
behind the last of them.
-/

namespace DataMapper.Sql

open Text

inductive StatementType where
  | select | insert | update | delete
  /-- Control of transactions and savepoints. -/
  | transaction
  | other
  deriving DecidableEq, Repr

namespace StatementType

def name : StatementType → String
  | select => "Select"
  | insert => "Insert"
  | update => "Update"
  | delete => "Delete"
  | transaction => "Transaction"
  | other => "Other"

def keywords : List (String × StatementType) :=
  [("SELECT", select), ("INSERT", insert), ("UPDATE", update), ("DELETE", delete),
    ("BEGIN", transaction), ("START", transaction), ("SET TRANSACTION", transaction),
    ("COMMIT", transaction), ("ROLLBACK", transaction), ("SAVEPOINT", transaction),
    ("RELEASE", transaction), ("END", transaction)]

/-- The text behind the first line feed. -/
def afterLine : List Char → List Char
  | [] => []
  | c :: cs => if c = '\n' then cs else afterLine cs

/-- The text behind the first end of a block comment. -/
def afterComment : List Char → List Char
  | [] => []
  | '*' :: '/' :: cs => cs
  | _ :: cs => afterComment cs

theorem length_afterLine_le (cs : List Char) : (afterLine cs).length ≤ cs.length := by
  induction cs with
  | nil => simp [afterLine]
  | cons c cs ih => rw [afterLine]; split <;> grind

theorem length_afterComment_le (cs : List Char) : (afterComment cs).length ≤ cs.length := by
  fun_induction afterComment cs <;> simp <;> omega

/-- The text from the first character on that is no blank, in no comment and no opening
parenthesis. -/
def skipLead : List Char → List Char
  | '-' :: '-' :: cs => skipLead (afterLine cs)
  | '/' :: '*' :: cs => skipLead (afterComment cs)
  | '(' :: cs => skipLead cs
  | c :: cs => if isBlank c then skipLead cs else c :: cs
  | [] => []
termination_by cs => cs.length
decreasing_by
  · have := length_afterLine_le cs; simp; omega
  · have := length_afterComment_le cs; simp; omega
  · simp
  · simp

/-- A character that continues a keyword. -/
def isWordChar (c : Char) : Bool := c.isAlphanum || c == '_'

/-- Does the text begin with the keyword, in whatever case, as a whole word? -/
def beginsWith (keyword : String) (cs : List Char) : Bool :=
  let n := keyword.length
  (cs.take n).map Char.toUpper == keyword.toList &&
    match (cs.drop n).head? with
    | some c => !isWordChar c
    | none => true

def ofKeyword? (cs : List Char) : Option StatementType :=
  (keywords.find? fun k => beginsWith k.1 cs).map (·.2)

/-- The text behind the last parenthesis that closes an outermost pair, outside of single quotes;
`found` where there is none to come. In a text of fewer than 2 ^ 31 characters 32 bits are enough
for the depth. -/
def afterBodies (depth : Int) (quoted : Bool) (found : List Char) : List Char → List Char
  | [] => found
  | c :: cs =>
    if quoted then afterBodies depth (c != '\'') found cs
    else if c = '(' then afterBodies (depth + 1) false found cs
    else if c = ')' then
      afterBodies (depth - 1) false (if depth = 1 then cs else found) cs
    else afterBodies depth (c == '\'') found cs

/-- The type of the statement behind common table expressions; one that changes no rows reads
them. -/
def behindBodies (cs : List Char) : StatementType :=
  match ofKeyword? (trimLeft (afterBodies 0 false cs cs)) with
  | some insert => insert
  | some update => update
  | some delete => delete
  | _ => select

def ofChars (cs : List Char) : StatementType :=
  let cs := skipLead cs
  if beginsWith "WITH" cs then behindBodies cs else (ofKeyword? cs).getD other

def ofText (sql : String) : StatementType := ofChars sql.toList

end StatementType

end DataMapper.Sql
