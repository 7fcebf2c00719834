import DataMapper.Error
import DataMapper.Sql.Dialect
import DataMapper.Sql.Lexical
import DataMapper.Sql.Literal

/-!
# Fragments of statements

A fragment is a piece of SQL text with the parameters of its placeholders, in their order. Values
enter a fragment either as literals or as placeholders, as the options say.

## Main definitions

* `Fragment.ofValue` — a value in a statement.
* `Fragment.ofTemplate` — raw text whose placeholders are filled by values.
-/

namespace DataMapper

open Sql

/-- How statements are put together. -/
structure BuildOptions where
  /-- Pass values as parameters; else they become quoted literals. -/
  parameterized : Bool := true
  /-- Write truth values, numbers and names of constants as literals all the same. -/
  inlineLiterals : Bool := true
  /-- The text between clauses. -/
  separator : String := " "
  dialect : Dialect := .postgres
  deriving DecidableEq, Inhabited

structure Fragment where
  text : List Char
  parameters : List Value

namespace Fragment

def empty : Fragment := ⟨[], []⟩

instance : Inhabited Fragment := ⟨empty⟩

/-- Text without placeholders of its own. -/
def ofText (cs : List Char) : Fragment := ⟨cs, []⟩

def ofString (s : String) : Fragment := ofText s.toList

def append (a b : Fragment) : Fragment := ⟨a.text ++ b.text, a.parameters ++ b.parameters⟩

instance : Append Fragment := ⟨append⟩

@[simp] theorem text_append (a b : Fragment) : (a ++ b).text = a.text ++ b.text := rfl

@[simp] theorem parameters_append (a b : Fragment) :
    (a ++ b).parameters = a.parameters ++ b.parameters := rfl

@[simp] theorem text_ofString (s : String) : (ofString s).text = s.toList := rfl

@[simp] theorem parameters_ofString (s : String) : (ofString s).parameters = [] := rfl

def isEmpty (a : Fragment) : Bool := a.text.isEmpty

/-- The fragments with a separator between each two. -/
def join (separator : Fragment) : List Fragment → Fragment
  | [] => empty
  | [a] => a
  | a :: as => a ++ separator ++ join separator as

/-- A value in a statement. Null and the time of the database are always written out. -/
def ofValue (o : BuildOptions) (v : Value) : Fragment :=
  match v with
  | .null => ofString "NULL"
  | .serverNow => ofString o.dialect.currentTimestamp
  | v =>
    if o.inlineLiterals && v.isSimple then ofText (literalChars v)
    else if o.parameterized then ⟨['?'], [v]⟩
    else ofText (literalChars v)

/-- Text whose placeholders, in the given mode of the scan, are filled by the values. -/
def fill (o : BuildOptions) (m : Mode) : List Value → List Char → Fragment
  | _, [] => empty
  | vs, c :: cs =>
    match isPlaceholder m c, vs with
    | true, v :: vs => ofValue o v ++ fill o (m.step c) vs cs
    | _, vs => ofText [c] ++ fill o (m.step c) vs cs

/-- Raw text with a value for each of its placeholders. -/
def ofTemplate (o : BuildOptions) (text : String) (values : List Value) :
    Except Error Fragment :=
  let marks := placeholderCount .plain text.toList
  if marks = values.length then .ok (fill o .plain values text.toList)
  else .error (.validation (.placeholderCount text marks values.length))

end Fragment

end DataMapper
