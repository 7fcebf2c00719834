import DataMapper.Record.Statements
import DataMapper.Session.Connections

/-!
# Reading and writing in sessions

Queries and statements that are given, and records that are found by their identities, stored,
brought up to date and deleted. The records that are written are named ones of the workspace.

## Main definitions

* `Session.queryRows`, `Session.query`, `Session.queryOne`, `Session.count`, `Session.load`
* `Session.execute`, `Session.executeSql`, `Session.batchExecute`
* `Session.insert`, `Session.update`, `Session.store`, `Session.delete`, `Session.refresh`
-/

namespace DataMapper.Session

open Work Sql

def mappingOf (t : RecordType) : Work Mapping :=
  match Mapping.ofType t with
  | .ok m => pure m
  | .error fault => fail (.mapping fault)

/-! ## Records of the workspace -/

def record (name : String) : Work Record := do
  match (← read).records.lookup name with
  | some r => return r
  | none => fail (.notFound (.record name))

/-- Give a record a name; another one of that name is no longer there. -/
def putRecord (name : String) (r : Record) : Work Unit :=
  modify fun w => { w with records := (name, r) :: w.records.filter (·.1 != name) }

def texts : Work TextStore := return (← read).store

/-- Keep what an operation has made of a record, also when it has failed. -/
def change {α : Type} (name : String) (f : TextStore → Record → Change α) : Work α := do
  let c := f (← texts) (← record name)
  putRecord name c.record
  modify fun w => { w with store := c.store }
  ofExcept c.result

/-- A new record read from a row. -/
def recordOfRow (m : Mapping) (row : Row) : Work Record := do
  let c := m.ofRow (← texts) m.type row
  modify fun w => { w with store := c.store }
  let _ ← ofExcept c.result
  return c.record

/-! ## Results -/

/-- A statement about one record must have changed one row. -/
def expectOne (affected : Nat) (sql : String) : Work Unit :=
  if affected = 1 then pure () else fail (.rowCount 1 affected sql)

/-- The only row that a query by identity has found. -/
def singleRow (m : Mapping) (id : Int64) : List Row → Work Row
  | [] => do
    let identity ← ofExcept m.requireIdentity
    fail (.notFound (.withIdentity m.typeName identity.column id))
  | [row] => pure row
  | rows => fail (.tooManyRows 1 rows.length)

/-- The first cell of the first row as a number; `what` says which number it is. -/
def scalar (what : String) (rows : List Row) : Work Int64 := do
  match rows.head?.bind (·.getIndex? 0) with
  | none => fail (.decode what .noValue)
  | some v =>
    match FieldType.long.coerce v with
    | .error e => fail (.decode what (.conversion e))
    | .ok v =>
      match v.int? with
      | some n => return n
      | none => fail (.decode what .nullValue)

/-! ## Reading -/

/-- Send the text with which a query asks for something. -/
def ask (q : Query) (sql : String) : Work (List Row) := do
  ofExcept q.validate
  onConnection fun c => runQuery c sql q.parameters none

def queryRows (q : Query) : Work (List Row) := ask q q.text

def query (t : RecordType) (q : Query) : Work (List Record) := do
  let m ← mappingOf t
  (← queryRows q).mapM (recordOfRow m)

/-- The only record that is found, if one is. -/
def queryOptional (t : RecordType) (q : Query) : Work (Option Record) := do
  let m ← mappingOf t
  match ← queryRows q with
  | [] => return none
  | [row] => return some (← recordOfRow m row)
  | rows => fail (.tooManyRows 1 rows.length)

def queryOne (t : RecordType) (q : Query) : Work Record := do
  match ← queryOptional t q with
  | some r => return r
  | none => fail (.notFound (.matching t.typeName q.text))

def count (q : Query) : Work Int64 := do scalar "count" (← ask q q.countText)

def load (t : RecordType) (id : Int64) : Work Record := do
  let m ← mappingOf t
  let q ← ofExcept (m.selectById (← options) id none)
  recordOfRow m (← singleRow m id (← queryRows q))

/-! ## Statements -/

def execute (q : Query) : Work Nat := do
  ofExcept q.validate
  onConnection fun c => runExecute c q.text q.parameters none

def executeSql (sql : String) (parameters : List Value) : Work Nat :=
  onConnection fun c => runExecute c sql parameters none

def batchExecute (sql : String) : Work Unit := onConnection fun c => runBatch c sql none

def createTable (t : RecordType) : Work Unit := do
  let m ← mappingOf t
  onConnection fun c => runBatch c m.createText (some (m.typeName ++ ".create_table"))

/-! ## Writing records -/

/-- Read the given fields of a stored record again. -/
def readBack (connection : Nat) (m : Mapping) (name : String) (id : Int64) (fields : List Nat)
    (tag : String) : Work Unit := do
  if fields.isEmpty then return
  let q ← ofExcept (m.selectById (← options) id (some fields))
  let rows ← runQuery connection q.text q.parameters (some tag)
  let row ← singleRow m id rows
  let _ ← change name fun st r => m.readRow st r row

/-- The identity that an inserted record has: the one assigned to it before, else the one that the
database has generated, which the record then holds. -/
def insertedId (connection : Nat) (m : Mapping) (name tag : String) : Work Int64 := do
  match ← ofExcept (m.persistedId (← texts) (← record name)) with
  | some id => return id
  | none =>
    let rows ← runQuery connection (← config).dialect.lastIdentity [] (some tag)
    let id ← scalar "generated identity" rows
    change name fun st r => m.setIdentity st r id
    return id

def insert (name : String) : Work Unit := do
  let r ← record name
  let m ← mappingOf r.type
  let p ← ofExcept (m.insertStatement (← options) (← texts) r)
  let tag := m.typeName ++ ".insert"
  onConnection fun c => do
    expectOne (← runExecute c p.sql p.parameters (some tag)) p.sql
    if m.identity.isNone then return
    let id ← insertedId c m name tag
    readBack c m name id p.stamped tag

/-- Update the given fields of a stored record. -/
def updateWith (m : Mapping) (name : String) (fields : List MappedField) : Work Unit := do
  let r ← record name
  let p ← ofExcept (m.updateStatement (← options) (← texts) r fields)
  let (_, id) ← ofExcept (m.storedIdentity (← texts) r "update")
  let tag := m.typeName ++ ".update"
  onConnection fun c => do
    expectOne (← runExecute c p.sql p.parameters (some tag)) p.sql
    readBack c m name id p.stamped tag

def update (name : String) : Work Unit := do
  let m ← mappingOf (← record name).type
  updateWith m name m.fields

/-- Update the fields with the given names only. -/
def updateFields (name : String) (names : List String) : Work Unit := do
  let m ← mappingOf (← record name).type
  updateWith m name (← ofExcept (m.fieldsNamed names))

/-- Update a record that has been stored, and insert any other. -/
def store (name : String) : Work Unit := do
  let r ← record name
  let m ← mappingOf r.type
  if ← ofExcept (m.isPersisted (← texts) r) then update name else insert name

def delete (name : String) : Work Unit := do
  let r ← record name
  let m ← mappingOf r.type
  let p ← ofExcept (m.deleteStatement (← options) (← texts) r)
  let affected ← onConnection fun c =>
    runExecute c p.sql p.parameters (some (m.typeName ++ ".delete"))
  expectOne affected p.sql

/-- Read a stored record again. -/
def refresh (name : String) : Work Unit := do
  let r ← record name
  let m ← mappingOf r.type
  let (_, id) ← ofExcept (m.storedIdentity (← texts) r "refresh")
  let q ← ofExcept (m.selectById (← options) id none)
  let row ← singleRow m id (← queryRows q)
  let _ ← change name fun st r => m.readRow st r row

end DataMapper.Session
