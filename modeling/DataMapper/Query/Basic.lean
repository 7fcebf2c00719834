import DataMapper.Query.Fragment
import DataMapper.Text.Blank

/-!
# Queries

A query selects, updates or deletes the rows of a table that fulfil a condition. It is grown one
clause at a time, and its text and its parameters can be asked for at any point.

## Main definitions

* `Query` — a query under construction.
* `Query.fragment` — its statement, the parameters in the order of their placeholders.
* `Query.validate` — whether it may be sent.
-/

namespace DataMapper

open Text

/-- What distinguishes the kinds of queries. -/
inductive Statement where
  | select (columns orderBy : Option String) (limit offset : Option Nat)
  | update (assignments : Fragment)
  | delete (allowUnfiltered : Bool)

structure Query where
  table : String
  statement : Statement
  options : BuildOptions
  tableAlias : Option String := none
  /-- Text right after the table and its alias. -/
  suffix : Option String := none
  condition : Fragment := .empty
  joins : Fragment := .empty

namespace Query

def select (table : String) (o : BuildOptions) : Query :=
  { table, statement := .select none none none none, options := o }

def update (table : String) (o : BuildOptions) : Query :=
  { table, statement := .update .empty, options := o }

def delete (table : String) (o : BuildOptions) : Query :=
  { table, statement := .delete false, options := o }

variable (q : Query)

def separator : Fragment := .ofString q.options.separator

/-- Blanks at the ends do not count, and a text of blanks only is none. -/
def optionalText (s : String) : Option String :=
  let t := trim s
  if t.isEmpty then none else some t

def withAlias (s : String) : Query := { q with tableAlias := optionalText s }

def withSuffix (s : String) : Query := { q with suffix := optionalText s }

def withOptions (f : BuildOptions → BuildOptions) : Query :=
  { q with options := f q.options }

def withColumns (text : String) : Query :=
  match q.statement with
  | .select _ orderBy limit offset =>
    { q with statement := .select (some text) orderBy limit offset }
  | _ => q

def withOrder (text : String) : Query :=
  match q.statement with
  | .select columns _ limit offset =>
    { q with statement := .select columns (some text) limit offset }
  | _ => q

def withLimit (n : Nat) : Query :=
  match q.statement with
  | .select columns orderBy _ offset =>
    { q with statement := .select columns orderBy (some n) offset }
  | _ => q

def withOffset (n : Nat) : Query :=
  match q.statement with
  | .select columns orderBy limit _ =>
    { q with statement := .select columns orderBy limit (some n) }
  | _ => q

def allowUnfiltered (on : Bool) : Query :=
  match q.statement with
  | .delete _ => { q with statement := .delete on }
  | _ => q

/-! ## Text -/

/-- A fragment behind a word and a separator, or nothing where there is no fragment. -/
def clause (word : String) (a : Fragment) : Fragment :=
  if a.isEmpty then .empty else q.separator ++ .ofString word ++ a

/-- The table with its alias and its suffix. -/
def tableText : Fragment :=
  .ofString q.table ++
    (match q.tableAlias with
      | some a => .ofString " AS " ++ .ofString a
      | none => .empty) ++
    (match q.suffix with
      | some s => .ofString " " ++ .ofString s
      | none => .empty)

/-- The table, what is joined to it and the condition. -/
def source : Fragment :=
  q.tableText ++ q.clause "" q.joins ++ q.clause "WHERE " q.condition

/-- A word and a text behind a separator, or nothing where there is no text. -/
def option (word : String) (text : Option String) : Fragment :=
  match text with
  | some t => q.separator ++ .ofString word ++ .ofString t
  | none => .empty

/-- The whole statement. -/
def fragment : Fragment :=
  match q.statement with
  | .select columns orderBy limit offset =>
    .ofString "SELECT " ++ .ofString (columns.getD "*") ++ .ofString " FROM " ++ q.source ++
      q.option "ORDER BY " orderBy ++ q.option "LIMIT " (limit.map Nat.repr) ++
      q.option "OFFSET " (offset.map Nat.repr)
  | .update assignments =>
    .ofString "UPDATE " ++ q.tableText ++ q.clause "" q.joins ++ q.separator ++
      .ofString "SET " ++ assignments ++ q.clause "WHERE " q.condition
  | .delete _ => .ofString "DELETE FROM " ++ q.source

/-- The statement that counts the rows, without order and limits. -/
def countFragment : Fragment := .ofString "SELECT COUNT(*) FROM " ++ q.source

def text : String := String.ofList q.fragment.text

def parameters : List Value := q.fragment.parameters

def countText : String := String.ofList q.countFragment.text

def conditionText : String := String.ofList q.condition.text

def joinText : String := String.ofList q.joins.text

/-- The assignments of an update. -/
def assignments : Fragment :=
  match q.statement with
  | .update a => a
  | _ => .empty

/-- A query needs a table, an update also an assignment, and a delete a condition unless it has
been allowed to go without. -/
def validate : Except Error Unit :=
  if isBlankText q.table then .error (.validation .noTable)
  else
    match q.statement with
    | .select .. => .ok ()
    | .update a => if a.isEmpty then .error (.validation (.emptyUpdate q.table)) else .ok ()
    | .delete unfiltered =>
      if q.condition.isEmpty && !unfiltered then .error (.validation (.unfilteredDelete q.table))
      else .ok ()

end Query

end DataMapper
