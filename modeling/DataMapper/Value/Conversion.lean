import DataMapper.Number.Reading
import DataMapper.Text.Pairs
import DataMapper.Value.Basic

/-!
# Failed conversions

Why a value could not become a value of another type.
-/

namespace DataMapper

open Number Text

/-- What is wrong with a value of an acceptable kind. -/
inductive ContentFault where
  | outOfRange
  | fractional
  | integer (fault : IntegerFault)
  | float (fault : FloatFault)
  | notRepresentable
  | notOneCharacter
  | notTimestamp
  /-- The text is not one of the named form. -/
  | malformed (form : String)
  | pairs (error : PairsError)
  | unknownConstant
  | described (text : String)
  deriving DecidableEq, Repr

def ContentFault.message : ContentFault → String
  | outOfRange => "out of range"
  | fractional => "has a fractional part"
  | integer fault => fault.message
  | float fault => fault.message
  | notRepresentable => "not representable"
  | notOneCharacter => "expected exactly one character"
  | notTimestamp => "not a timestamp"
  | malformed form => s!"not a valid {form}"
  | pairs error => error.message
  | unknownConstant => "unknown variant"
  | described text => text

inductive ConversionError where
  /-- A value of this kind is not acceptable at all. -/
  | unexpected (expected : String) (found : ValueKind)
  | invalid (expected : String) (found : ValueKind) (fault : ContentFault)
  | unknownField (index : Nat)
  deriving DecidableEq, Repr

namespace ConversionError

/-- The name of the type that was asked for. -/
def expected : ConversionError → String
  | unexpected expected _ | invalid expected _ _ => expected
  | unknownField _ => "a declared field"

def message : ConversionError → String
  | unexpected expected found => s!"cannot convert {found.name} into {expected}"
  | invalid expected found fault =>
    s!"cannot convert {found.name} into {expected}: {fault.message}"
  | unknownField index =>
    s!"cannot convert unknown index into a declared field: field index {index} is out of range"

end ConversionError

end DataMapper
