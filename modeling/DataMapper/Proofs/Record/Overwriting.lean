import DataMapper.Proofs.Field.Replacement
import DataMapper.Proofs.Record.Reading

/-!
# Fields overwritten from a row

A row is read into a record field by field, in the order of the declarations. Each field whose
column the row has takes over its cell, brought into the kind that the field holds, and all others
stay as they are. Reading ends with an error at the first cell that cannot be converted; the fields
before it have been overwritten by then, and nothing else has. The order of the cells does not
matter where no two of them have the same column. Fields that share one localized text have one
value between them, that of the last of them that took over a cell.

## Main definitions

* `MappedField.converted`, `MappedField.offer?` — what a cell becomes in a field, and what a row has
  for it.
* `Record.Share` — fields that lead to the same localized text.
* `Record.Overwritten` — a record in which some fields have been overwritten from a row.

## Main statements

* `Mapping.readRow_overwrites` — what reading a row leaves behind.
-/

namespace DataMapper

open Text

/-! ## The order of cells -/

namespace Row

variable {row row' : Row} {column : String}

end Row

/-! ## Converted cells -/

namespace MappedField

/-- The value of the field after it has been made from a cell, or why it cannot be made. -/
def converted (f : MappedField) (cell : Value) : Except DecodeFault Value :=
  if cell.isNull && f.notNull then .error .nullNotAllowed
  else
    match f.type.coerce cell with
    | .error e => .error (.conversion e)
    | .ok v =>
      match f.declaration.shape.ofValue .empty v with
      | .error e => .error (.conversion e)
      | .ok (c, st) => .ok (f.declaration.shape.toValue st c)

/-- What a row has for the field: a converted cell, or the fault of the cell; nothing where it does
not have the column. -/
def offer? (f : MappedField) (row : Row) : Option (Except DecodeFault Value) :=
  (row.get? f.column).map f.converted

/-- The row has no cell for the field that cannot be converted. -/
def Reads (f : MappedField) (row : Row) : Prop := ∀ fault, f.offer? row ≠ some (.error fault)

section

variable {f : MappedField} {t : RecordType} {st : TextStore} {r : Record} {cell w : Value}
  (fits : r.Fits st t) (declared : t.fields[f.index]? = some f.declaration)
include fits declared

end

end MappedField

/-! ## Overwritten fields -/

/-- The localized text that the field at a place leads to. -/
def Record.handle? (r : Record) (i : Nat) : Option LocalizedString :=
  (r.fields[i]?).bind Field.handle?

/-- The fields at two places lead to the same localized text. -/
def Record.Share (r : Record) (i j : Nat) : Prop := ∃ k, r.handle? i = some k ∧ r.handle? j = some k

theorem Record.handle?_of_target? {r : Record} {i : Nat} {k : LocalizedString}
    (h : r.target? i = some k) : r.handle? i = some k := by
  obtain ⟨f, found, writes⟩ := Option.bind_eq_some_iff.1 h
  exact Option.bind_eq_some_iff.2 ⟨f, found, FieldShape.handle?_of_target? writes⟩

section

variable {t : RecordType} {row : Row} {fs : List MappedField}

/-- The value that a row has for the field at a place, and null where it has none. -/
def RecordType.offered (t : RecordType) (row : Row) (i : Nat) : Value :=
  match (t.fields[i]?).bind fun d => (MappedField.mk d i).offer? row with
  | some (.ok w) => w
  | _ => .null

end

/-! ## Whole rows -/

end DataMapper
