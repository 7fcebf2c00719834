import DataMapper.Query.Condition
import DataMapper.Record.Mapping

/-!
# Statements that write records

The statements that insert, update and delete a record, and the query that finds it again by its
identity. Fields that are to hold the time of the database are noted, for they have to be read back.

## Main definitions

* `Mapping.insertStatement`, `Mapping.updateStatement`, `Mapping.deleteStatement`
* `Mapping.selectById`
-/

namespace DataMapper

open Sql

structure PreparedStatement where
  sql : String
  parameters : List Value
  /-- The places of the fields that the database fills with its time. -/
  stamped : List Nat

/-- The places of the fields whose values are the time of the database. -/
def stampedFields (bound : List (MappedField × Value)) : List Nat :=
  (bound.filter fun b => b.2.isServerNow).map fun b => b.1.index

namespace Mapping

variable (m : Mapping)

/-- The fields with their values as parameters. -/
def bindFields (st : TextStore) (r : Record) (fields : List MappedField) :
    Except Error (List (MappedField × Value)) :=
  fields.mapM fun f => (f.bindValue st r).map fun v => (f, v)

/-- A number that a stored record can have: not a negative one. -/
def isAssignedId : Value → Bool
  | .int id => decide (0 ≤ id.toInt)
  | _ => false

/-- The fields that are inserted. An identity that has not been assigned is left to the database. -/
def insertedFields (st : TextStore) (r : Record) : List MappedField :=
  m.fields.filter fun f => !m.isIdentity f || isAssignedId (f.rawValue st r)

/-- The statement that inserts a row of defaults. -/
def defaultRowText : Dialect → String
  | .mysql => "INSERT INTO " ++ m.table ++ " () VALUES ()"
  | .postgres | .sqlite => "INSERT INTO " ++ m.table ++ " DEFAULT VALUES"

def insertStatement (o : BuildOptions) (st : TextStore) (r : Record) :
    Except Error PreparedStatement := do
  let bound ← bindFields st r (m.insertedFields st r)
  let values := Fragment.join (.ofString ",") (bound.map fun b => .ofValue o b.2)
  let sql :=
    if bound.isEmpty then m.defaultRowText o.dialect
    else
      "INSERT INTO " ++ m.table ++ " (" ++ String.intercalate "," (bound.map fun b => b.1.column) ++
        ") VALUES (" ++ String.ofList values.text ++ ")"
  return ⟨sql, values.parameters, stampedFields bound⟩

/-- The identity of a record that an operation needs to be stored. -/
def storedIdentity (st : TextStore) (r : Record) (operation : String) :
    Except Error (MappedField × Int64) := do
  let identity ← m.requireIdentity
  match ← m.persistedId st r with
  | some id => return (identity, id)
  | none => throw (.validation (.notStored operation m.typeName))

/-- A query, checked, as a statement. -/
def preparedQuery (q : Query) (stamped : List Nat) : Except Error PreparedStatement := do
  q.validate
  return ⟨q.text, q.parameters, stamped⟩

/-- Update the given fields, the identity excepted. -/
def updateStatement (o : BuildOptions) (st : TextStore) (r : Record) (fields : List MappedField) :
    Except Error PreparedStatement := do
  let (identity, id) ← m.storedIdentity st r "update"
  let bound ← bindFields st r (fields.filter fun f => f.index != identity.index)
  let q := bound.foldl (fun q b => q.assign b.1.column b.2) (Query.update m.table o)
  if q.assignments.isEmpty then throw (.validation (.nothingToUpdate m.typeName))
  preparedQuery (q.compare false identity.column (.int id) false) (stampedFields bound)

def deleteStatement (o : BuildOptions) (st : TextStore) (r : Record) :
    Except Error PreparedStatement := do
  let (identity, id) ← m.storedIdentity st r "delete"
  preparedQuery ((Query.delete m.table o).compare false identity.column (.int id) false) []

/-- The query for the record with an identity, for all columns or those of some fields only. -/
def selectById (o : BuildOptions) (id : Int64) (fields : Option (List Nat)) :
    Except Error Query := do
  let identity ← m.requireIdentity
  let columns := fields.map fun places =>
    String.intercalate "," (places.filterMap fun i => (m.fields[i]?).map MappedField.column)
  let q := Query.select m.table o
  let q := match columns with
    | some text => q.withColumns text
    | none => q
  return q.compare false identity.column (.int id) false

end Mapping

end DataMapper
