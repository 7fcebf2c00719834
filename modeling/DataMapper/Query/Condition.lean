import DataMapper.Query.Basic
import DataMapper.Calendar.Timestamp
import DataMapper.Text.Like

/-!
# Conditions, joins and assignments

Every condition is put behind those before it, either as it is or as one more conjunct. A condition
that cannot be formed leaves the query as it was.

## Main definitions

* `Query.compare`, `Query.within`, `Query.withinQuery`, `Query.between`, `Query.search` — the
  conditions.
* `Query.join`, `Query.assign` — joined tables and assignments.
-/

namespace DataMapper

open Text Calendar

inductive JoinType where
  | inner | left | right | full
  deriving DecidableEq, Repr, Inhabited

def JoinType.keyword : JoinType → String
  | inner => "JOIN"
  | left => "LEFT JOIN"
  | right => "RIGHT JOIN"
  | full => "FULL JOIN"

/-- How the words of a phrase work together. -/
inductive SearchMethod where
  | allWords | anyWord
  deriving DecidableEq, Repr, Inhabited

/-- A column of another table that is reached through a foreign key. -/
structure ForeignColumn where
  table : String
  column : String
  /-- The column of the queried table that refers to the other one. -/
  foreignKey : String
  /-- The column of the other table that is referred to. -/
  referencedKey : String
  deriving DecidableEq, Repr

namespace Query

variable (q : Query)

/-! ## Parts -/

/-- Is the text more than a plain name? -/
def isComposite (column : List Char) : Bool :=
  column.any fun c => c == '.' || c == ',' || c == '(' || c == ')' || isBlank c

/-- A column; a plain name belongs to the alias, if the table has one. -/
def columnText (column : String) : Fragment :=
  match q.tableAlias with
  | some a =>
    if isComposite column.toList then .ofString column
    else .ofString a ++ .ofString "." ++ .ofString column
  | none => .ofString column

def valueText (v : Value) : Fragment := .ofValue q.options v

/-- Does a conjunct need a conjunction before it: is there something before it, and is that not an
opening parenthesis? -/
def needsAnd (cs : List Char) : Bool :=
  match (trimRight cs).getLast? with
  | some c => c != '('
  | none => false

def andText : Fragment := q.separator ++ .ofString "AND "

/-- The query with a condition behind those it has. -/
def addCondition (conjunct : Bool) (a : Fragment) : Query :=
  let link := if conjunct && needsAnd q.condition.text then q.andText else .empty
  { q with condition := q.condition ++ link ++ a }

/-! ## Conditions -/

def raw (conjunct : Bool) (text : String) : Query := q.addCondition conjunct (.ofString text)

def rawWith (conjunct : Bool) (text : String) (values : List Value) : Except Error Query :=
  (Fragment.ofTemplate q.options text values).map (q.addCondition conjunct)

/-- Equality with a value, or its negation. -/
def comparison (column : String) (v : Value) (negated : Bool) : Fragment :=
  if v.isNull then
    q.columnText column ++ .ofString (if negated then " IS NOT NULL" else " IS NULL")
  else q.columnText column ++ .ofString (if negated then "<>" else "=") ++ q.valueText v

def compare (conjunct : Bool) (column : String) (v : Value) (negated : Bool) : Query :=
  q.addCondition conjunct (q.comparison column v negated)

def inText (negated : Bool) : Fragment := .ofString (if negated then " NOT IN (" else " IN (")

def membership (column : String) (vs : List Value) (negated : Bool) : Fragment :=
  q.columnText column ++ inText negated ++
    Fragment.join (.ofString ",") (vs.map q.valueText) ++ .ofString ")"

/-- The column holds one of the values, or none of them. A single value is compared with. Without
values there is no such condition, except that nothing excludes nothing: the conjunct that no value
is to be met changes nothing. -/
def within (conjunct : Bool) (column : String) (vs : List Value) (negated : Bool) :
    Except Error Query :=
  match vs with
  | [] =>
    if conjunct && negated then .ok q else .error (.validation (.noValues negated column))
  | [v] => .ok (q.compare conjunct column v negated)
  | vs => .ok (q.addCondition conjunct (q.membership column vs negated))

/-- The column holds one of the values that another query selects, or none of them. -/
def withinQuery (conjunct : Bool) (column : String) (nested : Query) (negated : Bool) : Query :=
  q.addCondition conjunct
    (q.columnText column ++ inText negated ++ nested.fragment ++ .ofString ")")

/-- The day after the last one of a range; the last representable day stands for itself. -/
def dayAfter (d : Date) : Date := d.next?.getD d

/-- The comparisons that hold of the times from the beginning of the first day to the end of the
last one. -/
def dayRange (column : String) (first last : Option Date) : Fragment :=
  let lower := first.map fun d =>
    q.columnText column ++ .ofString ">=" ++ q.valueText (.date d)
  let upper := last.map fun d =>
    q.columnText column ++ .ofString "<" ++ q.valueText (.date (dayAfter d))
  Fragment.join q.andText (lower.toList ++ upper.toList)

def between (conjunct : Bool) (column : String) (first last : Option Date) : Query :=
  if first.isNone && last.isNone then q
  else q.addCondition conjunct (q.dayRange column first last)

/-- The range of the days that its bounds belong to. -/
def betweenDays {α : Type} [CalendarDay α] (conjunct : Bool) (column : String)
    (first last : Option α) : Query :=
  q.between conjunct column (first.map CalendarDay.day) (last.map CalendarDay.day)

/-! ## Search -/

/-- Patterns escape with a backslash, which SQLite has to be told. -/
def likeText (pattern : String) : Fragment :=
  .ofString " LIKE " ++ q.valueText (.text pattern) ++
    .ofString (match q.options.dialect with
      | .sqlite => " ESCAPE '\\'"
      | _ => "")

/-- The name that a column of the queried table is qualified with from inside another table. -/
def outerName : String := q.tableAlias.getD q.table

/-- A row of the other table that the row at hand refers to matches the pattern. -/
def foreignMatch (pattern : String) (f : ForeignColumn) : Fragment :=
  .ofString ("EXISTS (SELECT * FROM " ++ f.table ++ " WHERE " ++ f.table ++ "." ++
    f.referencedKey ++ "=" ++ q.outerName ++ "." ++ f.foreignKey ++ " AND " ++ f.table ++ "." ++
    f.column) ++ q.likeText pattern ++ .ofString ")"

/-- One of the columns contains the word. -/
def wordMatch (columns : List String) (foreign : List ForeignColumn) (word : List Char) :
    Fragment :=
  let pattern := likePattern (String.ofList word)
  .ofString "(" ++
    Fragment.join (.ofString " OR ")
      (columns.map (fun c => q.columnText c ++ q.likeText pattern) ++
        foreign.map (q.foreignMatch pattern)) ++
    .ofString ")"

def searchText (method : SearchMethod) (columns : List String) (foreign : List ForeignColumn)
    (ws : List (List Char)) : Fragment :=
  let link := match method with
    | .allWords => " AND "
    | .anyWord => " OR "
  let all := Fragment.join (.ofString link) (ws.map (q.wordMatch columns foreign))
  if 1 < ws.length then .ofString "(" ++ all ++ .ofString ")" else all

/-- The words of a phrase, all of them or any, are found in one of the columns each. -/
def search (conjunct : Bool) (phrase : String) (method : SearchMethod) (columns : List String)
    (foreign : List ForeignColumn) : Except Error Query :=
  let ws := words phrase.toList
  if ws.isEmpty then .error (.validation .emptyPhrase)
  else if columns.isEmpty && foreign.isEmpty then .error (.validation .noSearchColumns)
  else .ok (q.addCondition conjunct (q.searchText method columns foreign ws))

/-! ## Joins and assignments -/

def addJoin (a : Fragment) : Query :=
  { q with joins := if q.joins.isEmpty then q.joins ++ a else q.joins ++ q.separator ++ a }

/-- Join a table. The left side is a given name, else the alias, else the table. -/
def join (left : Option String) (foreignKey referenced : String) (tableAlias : Option String)
    (referencedKey : String) (type : JoinType) : Query :=
  let left := left.getD q.outerName
  let named := match tableAlias with
    | some a => referenced ++ " AS " ++ a
    | none => referenced
  q.addJoin (.ofString (type.keyword ++ " " ++ named ++ " ON " ++ left ++ "." ++ foreignKey ++ "="
    ++ tableAlias.getD referenced ++ "." ++ referencedKey))

def joinRaw (text : String) (values : List Value) : Except Error Query :=
  (Fragment.ofTemplate q.options text values).map q.addJoin

/-- The update with one more assignment. -/
def addAssignment (a : Fragment) : Query :=
  match q.statement with
  | .update before =>
    let before := if before.isEmpty then before else before ++ .ofString ","
    { q with statement := .update (before ++ a) }
  | _ => q

def assign (column : String) (v : Value) : Query :=
  q.addAssignment (.ofString column ++ .ofString "=" ++ q.valueText v)

def assignRaw (text : String) (values : List Value) : Except Error Query :=
  (Fragment.ofTemplate q.options text values).map q.addAssignment

end Query

end DataMapper
