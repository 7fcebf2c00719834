import DataMapper.Field.Content

/-!
# Record types and records

A record type names a table and lists the fields that are kept in its columns. A record is a value
of such a type: one field for each declared one, of the declared shape.
-/

namespace DataMapper

structure FieldDeclaration where
  name : String
  column : String
  shape : FieldShape
  notNull : Bool

/-- The description of a record type. Types with different keys are different, even where they are
described alike. -/
structure RecordType where
  key : Nat
  typeName : String
  table : String
  /-- The statement that creates the table, where it is not derived from the fields. -/
  schema : Option String
  identity : Option String
  fields : List FieldDeclaration

structure Record where
  type : RecordType
  fields : List Field

namespace Record

/-- New fields for the declarations, from left to right. -/
def freshFields (st : TextStore) : List FieldDeclaration → List Field × TextStore
  | [] => ([], st)
  | d :: ds =>
    let (f, st) := Field.fresh st d.shape
    let (fs, st) := freshFields st ds
    (f :: fs, st)

def fresh (st : TextStore) (t : RecordType) : Record × TextStore :=
  let (fs, st) := freshFields st t.fields
  (⟨t, fs⟩, st)

/-- The value of the field at an index; null where there is none. -/
def get (st : TextStore) (r : Record) (i : Nat) : Value :=
  Value.ofOption ((r.fields[i]?).map (Field.toValue st))

/-- The record after a value has been assigned to the field at an index. -/
def set (st : TextStore) (r : Record) (i : Nat) (v : Value) :
    Except ConversionError (Record × TextStore) :=
  match r.fields[i]? with
  | none => .error (.unknownField i)
  | some f => (f.assign st v).map fun (f, st) => ({ r with fields := r.fields.set i f }, st)

def values (st : TextStore) (r : Record) : List Value := r.fields.map (Field.toValue st)

end Record

end DataMapper
