import DataMapper.Declaration.Basic
import DataMapper.Text.Blank
import DataMapper.Text.SnakeCase

/-!
# What is derived from declarations

From a struct with named fields the outline of a record type is derived, from an enumeration without
fields the names under which its variants are stored. Names that are not set are taken from the
declaration: those of fields and variants as they are, that of the table in snake case.

## Main definitions

* `Declaration.recordOutline` — the record type of a struct.
* `Declaration.storedNames` — the stored names of an enumeration.
-/

namespace DataMapper

open Text

structure OutlinedField where
  name : String
  column : String
  type : String
  notNull : Bool
  deriving DecidableEq, Repr

structure RecordOutline where
  typeName : String
  table : String
  schema : Option String
  identity : Option String
  fields : List OutlinedField
  deriving DecidableEq, Repr

/-! ## Settings -/

structure TypeSettings where
  table : Option String := none
  schema : Option String := none
  identity : Option String := none

/-- The settings with what one more item sets. -/
def TypeSettings.add (s : TypeSettings) (i : AttributeItem) :
    Except DerivationFault TypeSettings :=
  match i.key with
  | "table" => i.text.map fun t => { s with table := some t }
  | "schema" => i.text.map fun t => { s with schema := some t }
  | "identity" => i.text.map fun t => { s with identity := some t }
  | _ => .error .unknownAttribute

structure FieldSettings where
  column : Option String := none
  skip : Bool := false
  notNull : Bool := false
  identity : Bool := false

def FieldSettings.add (s : FieldSettings) (i : AttributeItem) :
    Except DerivationFault FieldSettings :=
  match i.key, i.value with
  | "skip", .none => .ok { s with skip := true }
  | "not_null", .none => .ok { s with notNull := true }
  | "identity", .none => .ok { s with identity := true }
  | "column", .text t => .ok { s with column := some t }
  | "column", .literal => .error .textExpected
  | _, _ => .error .unknownAttribute

/-- The name that an item stores a variant under. -/
def readRename (_ : Option String) (i : AttributeItem) :
    Except DerivationFault (Option String) :=
  match i.key with
  | "rename" => i.text.map some
  | _ => .error .unknownAttribute

/-- What the `record` attributes set, the later items over the earlier. -/
def readSettings {σ : Type} (add : σ → AttributeItem → Except DerivationFault σ) (s : σ)
    (attributes : List DeclaredAttribute) : Except DerivationFault σ :=
  (recordItems attributes).foldlM add s

/-! ## Records -/

/-- The fields that are kept, and the identity, when `identity` has been declared before. -/
def outlineFields (identity : Option String) :
    List DeclaredField → Except DerivationFault (List OutlinedField × Option String)
  | [] => .ok ([], identity)
  | f :: fs => do
    let s ← readSettings FieldSettings.add {} f.attributes
    if s.skip then outlineFields identity fs
    else
      let identity ← match s.identity, identity with
        | true, some first => .error (.secondIdentity first)
        | true, none => .ok (some f.name)
        | false, identity => .ok identity
      let type := String.ofList (f.type.toList.filter fun c => !isBlank c)
      let (outlined, identity) ← outlineFields identity fs
      return (⟨f.name, s.column.getD f.name, type, s.notNull⟩ :: outlined, identity)

namespace Declaration

variable (d : Declaration)

def recordOutline : Except DerivationFault RecordOutline := do
  if !d.generics.isEmpty then throw .generic
  let fields ← match d.shape with
    | .namedFields fields => .ok fields
    | .tuple | .unit => .error .unnamedFields
    | .union | .variants _ => .error .notStruct
  let s ← readSettings TypeSettings.add {} d.attributes
  let (outlined, identity) ← outlineFields s.identity fields
  return ⟨d.name, s.table.getD (snakeCase d.name), s.schema, identity, outlined⟩

/-! ## Enumerations -/

/-- The name that a variant is stored under. -/
def storedName (v : DeclaredVariant) : Except DerivationFault String :=
  if v.hasFields then .error .variantWithFields
  else (readSettings readRename none v.attributes).map fun rename => rename.getD v.name

/-- The variants with the names they are stored under. -/
def storedNames : Except DerivationFault (List (String × String)) :=
  match d.shape with
  | .variants vs => vs.mapM fun v => (storedName v).map fun stored => (v.name, stored)
  | _ => .error .notEnum

end Declaration

/-- The stored name of a variant. -/
def storedName? (names : List (String × String)) (variant : String) : Option String :=
  names.lookup variant

/-- The first variant with a stored name. -/
def variantStoredAs? (names : List (String × String)) (stored : String) : Option String :=
  (names.find? fun n => n.2 == stored).map (·.1)

end DataMapper
