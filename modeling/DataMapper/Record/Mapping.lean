import DataMapper.Error
import DataMapper.Record.Basic
import DataMapper.Row

/-!
# Mappings

A mapping is a record type that has been found in order: it has a table and fields, no two of them
share a name or a column, and its identity, if it has one, is an integer. Through the mapping the
fields of records become parameters and the cells of rows become fields.

## Main definitions

* `Mapping.ofType` — the mapping of a record type, or what is wrong with it.
* `Mapping.places`, `Mapping.field?` — the fields by their names and their columns.
* `MappedField.bindValue`, `Mapping.readRow` — to and from the database.
-/

namespace DataMapper

open Text

/-- A declared field with its place among the others. -/
structure MappedField where
  declaration : FieldDeclaration
  index : Nat

namespace MappedField

def name (f : MappedField) : String := f.declaration.name
def column (f : MappedField) : String := f.declaration.column
def type (f : MappedField) : FieldType := f.declaration.shape.fieldType
def notNull (f : MappedField) : Bool := f.declaration.notNull

end MappedField

structure Mapping where
  type : RecordType
  fields : List MappedField
  identity : Option MappedField

/-- Number the declarations from `index` on. -/
def numberFields (index : Nat) : List FieldDeclaration → List MappedField
  | [] => []
  | d :: ds => ⟨d, index⟩ :: numberFields (index + 1) ds

namespace Mapping

/-! ## Checking a record type -/

/-- No declaration shares its name or its column with one before it. -/
def checkNames (typeName : String) (before : List FieldDeclaration) :
    List FieldDeclaration → Except MappingFault Unit
  | [] => .ok ()
  | d :: ds =>
    if before.any fun e => sameName e.name d.name then .error (.duplicateField typeName d.name)
    else
      match before.find? fun e => sameName e.column d.column with
      | some e => .error (.duplicateColumn typeName e.name d.name d.column)
      | none => checkNames typeName (before ++ [d]) ds

/-- The field that a name belongs to. -/
def named? (fields : List MappedField) (name : String) : Option MappedField :=
  fields.find? fun f => sameName f.name name

/-- The declared identity, which must be a field; else a field named `id`, if there is one. -/
def findIdentity (t : RecordType) (fields : List MappedField) :
    Except MappingFault (Option MappedField) :=
  match t.identity with
  | none => .ok (named? fields "id")
  | some declared =>
    match named? fields declared with
    | some f => .ok (some f)
    | none => .error (.unknownIdentity t.typeName declared)

def ofType (t : RecordType) : Except MappingFault Mapping :=
  if isBlankText t.table then .error (.emptyTable t.typeName)
  else if t.fields.isEmpty then .error (.noFields t.typeName)
  else
    match checkNames t.typeName [] t.fields with
    | .error fault => .error fault
    | .ok () =>
      let fields := numberFields 0 t.fields
      match findIdentity t fields with
      | .error fault => .error fault
      | .ok none => .ok ⟨t, fields, none⟩
      | .ok (some f) =>
        if f.type.isInteger then .ok ⟨t, fields, some f⟩
        else .error (.nonIntegerIdentity t.typeName f.name f.type)

variable (m : Mapping)

def typeName : String := m.type.typeName

def table : String := m.type.table

/-- Enter the places of the fields under a key of theirs, where no other field has been entered. -/
def enterPlaces (key : MappedField → String) (fields : List MappedField) (places : KeyMap Nat) :
    KeyMap Nat :=
  fields.foldl (fun places f => places.insertNew (foldCase (key f)) f.index) places

/-- The places of the fields, by their names and then by their columns. The case of ASCII letters
does not count. -/
def places : KeyMap Nat :=
  enterPlaces MappedField.column m.fields (enterPlaces MappedField.name m.fields .empty)

/-- The field that has been entered under a name. -/
def field? (name : String) : Option MappedField :=
  (m.places.find? (foldCase name)).bind fun i => m.fields[i]?

def requireIdentity : Except Error MappedField :=
  match m.identity with
  | some f => .ok f
  | none => .error (.mapping (.noIdentity m.typeName))

/-- The fields with the given names, unless one of them is unknown. -/
def fieldsNamed (names : List String) : Except Error (List MappedField) :=
  names.mapM fun name =>
    match m.field? name with
    | some f => .ok f
    | none => .error (.validation (.unknownField m.typeName name))

def isIdentity (f : MappedField) : Bool :=
  match m.identity with
  | some i => i.index == f.index
  | none => false

/-- One column in the statement that creates the table. -/
def columnText (f : MappedField) : String :=
  f.column ++ " " ++ f.type.columnType ++
    if m.isIdentity f then " GENERATED BY DEFAULT AS IDENTITY PRIMARY KEY"
    else if f.notNull then " NOT NULL"
    else ""

/-- The statement that creates the table. -/
def createText : String :=
  match m.type.schema with
  | some text => text
  | none =>
    "CREATE TABLE " ++ m.table ++ " (" ++ String.intercalate ", " (m.fields.map m.columnText) ++ ")"

end Mapping

/-! ## Records through a mapping -/

/-- The result of an operation that may change a record and the store of localized texts, also
when it fails. -/
structure Change (α : Type) where
  result : Except Error α
  record : Record
  store : TextStore

namespace MappedField

variable (f : MappedField)

def rawValue (st : TextStore) (r : Record) : Value := r.get st f.index

/-- The field's value as a parameter; a field that must not be null refuses null. -/
def bindValue (st : TextStore) (r : Record) : Except Error Value :=
  let v := f.rawValue st r
  if v.isNull && f.notNull then .error (.validation (.nullField r.type.typeName f.name)) else .ok v

/-- Put a value read from the field's column into the record. -/
def readColumn (st : TextStore) (r : Record) (v : Value) : Change Unit :=
  let fail (fault : DecodeFault) : Change Unit := ⟨.error (.decode f.column fault), r, st⟩
  if v.isNull && f.notNull then fail .nullNotAllowed
  else
    match f.type.coerce v with
    | .error e => fail (.conversion e)
    | .ok v =>
      match r.set st f.index v with
      | .error e => fail (.conversion e)
      | .ok (r, st) => ⟨.ok (), r, st⟩

/-- Put the cell of the field's column into the record, if the row has one; says whether it has. -/
def readRow (st : TextStore) (r : Record) (row : Row) : Change Bool :=
  match row.get? f.column with
  | none => ⟨.ok false, r, st⟩
  | some v =>
    let c := f.readColumn st r v
    ⟨c.result.map fun _ => true, c.record, c.store⟩

end MappedField

/-- Read the cells of the fields from left to right up to the first that cannot be read, and count
those that were. -/
def readFields (row : Row) (copied : Nat) (r : Record) (st : TextStore) :
    List MappedField → Change Nat
  | [] => ⟨.ok copied, r, st⟩
  | f :: fs =>
    let c := f.readRow st r row
    match c.result with
    | .error e => ⟨.error e, c.record, c.store⟩
    | .ok read => readFields row (if read then copied + 1 else copied) c.record c.store fs

namespace Mapping

variable (m : Mapping)

/-- A mapping serves the records of its own type only. -/
def check (r : Record) : Except Error Unit :=
  if r.type.key = m.type.key then .ok ()
  else .error (.mapping (.otherType m.typeName r.type.typeName))

/-- The identity of a record that has been stored. Null and negative numbers mean that it has not
been. -/
def persistedId (st : TextStore) (r : Record) : Except Error (Option Int64) := do
  m.check r
  let identity ← m.requireIdentity
  match identity.rawValue st r with
  | .null => return none
  | .int id => return if 0 ≤ id.toInt then some id else none
  | v => .error (.mapping (.nonIntegerValue m.typeName identity.name v.display))

def isPersisted (st : TextStore) (r : Record) : Except Error Bool :=
  (m.persistedId st r).map Option.isSome

def setIdentity (st : TextStore) (r : Record) (id : Int64) : Change Unit :=
  match m.check r, m.requireIdentity with
  | .error e, _ => ⟨.error e, r, st⟩
  | _, .error e => ⟨.error e, r, st⟩
  | .ok (), .ok identity => identity.readColumn st r (.int id)

/-- Overwrite the fields whose columns the row has, and count them. -/
def readRow (st : TextStore) (r : Record) (row : Row) : Change Nat :=
  match m.check r with
  | .error e => ⟨.error e, r, st⟩
  | .ok () => readFields row 0 r st m.fields

/-- A new record of a type, read from a row. -/
def ofRow (st : TextStore) (t : RecordType) (row : Row) : Change Nat :=
  let (r, st) := Record.fresh st t
  m.readRow st r row

end Mapping

end DataMapper
