/-!
# Declared types

The declaration of a type in a program: its shape, its fields or variants, and the attributes they
bear. What a `record` attribute says is a setting; attributes of other names are no concern here.

## Main definitions

* `Declaration` — a declared type.
* `recordItems` — what the `record` attributes among some attributes say.
* `DerivationFault` — why nothing can be derived from a declaration.
-/

namespace DataMapper

/-- What stands behind the key of an item: nothing, a text, another literal or a list. -/
inductive ItemValue where
  | none
  | text (s : String)
  | literal
  | list
  deriving DecidableEq, Repr

structure AttributeItem where
  key : String
  value : ItemValue
  deriving DecidableEq, Repr

structure DeclaredAttribute where
  name : String
  items : List AttributeItem
  deriving DecidableEq, Repr

structure DeclaredField where
  name : String
  type : String
  attributes : List DeclaredAttribute
  deriving DecidableEq, Repr

structure DeclaredVariant where
  name : String
  attributes : List DeclaredAttribute
  /-- Does the variant have fields, be it an empty list of them? -/
  hasFields : Bool
  deriving DecidableEq, Repr

inductive DeclaredShape where
  | namedFields (fields : List DeclaredField)
  | tuple
  | unit
  | union
  | variants (variants : List DeclaredVariant)
  deriving DecidableEq, Repr

structure Declaration where
  name : String
  generics : List String
  attributes : List DeclaredAttribute
  shape : DeclaredShape
  deriving DecidableEq, Repr

inductive DerivationFault where
  | generic
  | unnamedFields
  | notStruct
  | notEnum
  | variantWithFields
  | textExpected
  | unknownAttribute
  | secondIdentity (first : String)
  deriving DecidableEq, Repr

def DerivationFault.message : DerivationFault → String
  | generic => "Record cannot be derived for generic structs"
  | unnamedFields => "Record can only be derived for structs with named fields"
  | notStruct => "Record can only be derived for structs"
  | notEnum => "RecordEnum can only be derived for enums"
  | variantWithFields => "RecordEnum variants must be unit variants (no fields)"
  | textExpected => "expected `key = \"value\"`"
  | unknownAttribute => "unknown record attribute"
  | secondIdentity first => s!"identity is already declared as `{first}`"

/-- The items of all attributes with the name `record`. -/
def recordItems (attributes : List DeclaredAttribute) : List AttributeItem :=
  (attributes.filter fun a => a.name == "record").flatMap fun a => a.items

/-- The text that an item gives to its key. -/
def AttributeItem.text (i : AttributeItem) : Except DerivationFault String :=
  match i.value with
  | .text s => .ok s
  | _ => .error .textExpected

end DataMapper
