import DataMapper.Field.Type
import DataMapper.Value.Conversion

/-!
# Errors

Everything that an operation can fail with, told apart by cause, and the text of each.
-/

namespace DataMapper

/-- Arguments that are refused before anything is sent to the database. -/
inductive ValidationFault where
  | unknownDialect (name : String)
  | invalidSetting (name raw : String)
  | savepointName (name : String)
  | placeholderCount (text : String) (marks parameters : Nat)
  | noTable
  | noValues (negated : Bool) (column : String)
  | emptyPhrase
  | noSearchColumns
  | unfilteredDelete (table : String)
  | emptyUpdate (table : String)
  | nullField (typeName field : String)
  | unknownField (typeName name : String)
  | notStored (operation typeName : String)
  | nothingToUpdate (typeName : String)
  | described (text : String)
  deriving DecidableEq, Repr

def ValidationFault.message : ValidationFault → String
  | unknownDialect name => s!"unknown SQL dialect '{name}'"
  | invalidSetting name raw => s!"invalid value for {name}: '{raw}'"
  | savepointName name => s!"invalid savepoint name '{name}'"
  | placeholderCount text marks parameters =>
    s!"'{text}' has {marks} placeholder(s) but {parameters} parameter(s) were given"
  | noTable => "query has no table name"
  | noValues negated column =>
    (if negated then "NOT IN" else "IN") ++ s!" on column '{column}' requires at least one value"
  | emptyPhrase => "search phrase is empty"
  | noSearchColumns => "search match needs at least one column"
  | unfilteredDelete table =>
    s!"DELETE FROM {table} has no WHERE clause; call allow_unfiltered(true) to delete all rows"
  | emptyUpdate table => s!"UPDATE {table} has no SET clause"
  | nullField typeName field => s!"{typeName}.{field} must not be null"
  | unknownField typeName name => s!"{typeName} has no field '{name}'"
  | notStored operation typeName => s!"cannot {operation} {typeName}: record has not been stored"
  | nothingToUpdate typeName => s!"nothing to update for {typeName}"
  | described text => text

/-- Faults in the description of a record type, or in the use of one. -/
inductive MappingFault where
  | emptyTable (typeName : String)
  | noFields (typeName : String)
  | duplicateField (typeName name : String)
  | duplicateColumn (typeName first second column : String)
  | unknownIdentity (typeName declared : String)
  | nonIntegerIdentity (typeName field : String) (type : FieldType)
  | noIdentity (typeName : String)
  | otherType (typeName used : String)
  | nonIntegerValue (typeName field shown : String)
  | described (text : String)
  deriving DecidableEq, Repr

def MappingFault.message : MappingFault → String
  | emptyTable typeName => s!"{typeName} has an empty table name"
  | noFields typeName => s!"{typeName} has no persisted fields"
  | duplicateField typeName name => s!"{typeName} declares field '{name}' twice"
  | duplicateColumn typeName first second column =>
    s!"{typeName} maps fields '{first}' and '{second}' to column '{column}'"
  | unknownIdentity typeName declared =>
    s!"{typeName} declares identity '{declared}' but has no such field"
  | nonIntegerIdentity typeName field type =>
    s!"{typeName}.{field} is the identity but has non-integer type {type.name}"
  | noIdentity typeName => s!"{typeName} has no identity field"
  | otherType typeName used => s!"handler for {typeName} used with {used}"
  | nonIntegerValue typeName field shown =>
    s!"{typeName}.{field} holds non-integer identity {shown}"
  | described text => text

/-- Why a cell could not be read. -/
inductive DecodeFault where
  | nullNotAllowed
  | conversion (error : ConversionError)
  | noValue
  | nullValue
  | unsupportedType (name : String)
  | malformed
  | described (text : String)
  deriving DecidableEq, Repr

def DecodeFault.message : DecodeFault → String
  | nullNotAllowed => "NULL in a not-null field"
  | conversion error => error.message
  | noValue => "no value returned"
  | nullValue => "NULL returned"
  | unsupportedType name => s!"unsupported column type {name}"
  | malformed => "malformed cell"
  | described text => text

inductive TransactionFault where
  | alreadyActive
  | inactive (command : String)
  | described (text : String)
  deriving DecidableEq, Repr

def TransactionFault.message : TransactionFault → String
  | alreadyActive => "a transaction is already active in this session"
  | inactive command => s!"{command} without an active transaction"
  | described text => text

/-- What was asked for and is not there. -/
inductive Missing where
  | record (typeName : String)
  | withIdentity (typeName column : String) (id : Int64)
  | matching (typeName sql : String)
  | described (text : String)
  deriving DecidableEq

def Missing.message : Missing → String
  | record typeName => typeName
  | withIdentity typeName column id =>
    s!"{typeName} with {column}=" ++ String.ofList (Json.integerChars id.toInt)
  | matching typeName sql => s!"no {typeName} matches: {sql}"
  | described text => text

inductive Error where
  | connection (message : String)
  /-- A failure that the driver reports in its own terms, with the state code if it has one. -/
  | query (state : Option String)
  | database (code message : String)
  | notFound (what : Missing)
  | tooManyRows (expected got : Nat)
  | rowCount (expected got : Nat) (sql : String)
  | uniqueViolation (message : String)
  | foreignKeyViolation (message : String)
  | checkViolation (message : String)
  | serializationConflict (message : String)
  | retriesExhausted (attempts : Nat) (source : Error)
  | decode (column : String) (fault : DecodeFault)
  | validation (fault : ValidationFault)
  | mapping (fault : MappingFault)
  | transaction (fault : TransactionFault)
  | pool (message : String)
  | other (message : String)
  deriving DecidableEq

namespace Error

instance : Inhabited Error := ⟨other ""⟩

def message : Error → String
  | connection m => "Connection error: " ++ m
  | query state => "Query error: " ++ state.getD "db error"
  | database code m => s!"Database error [{code}]: {m}"
  | notFound what => "Not found: " ++ what.message
  | tooManyRows expected got => s!"Too many rows: expected {expected}, got {got}"
  | rowCount expected got sql => s!"Expected {expected} affected row(s), got {got}: {sql}"
  | uniqueViolation m => "Unique constraint violation: " ++ m
  | foreignKeyViolation m => "Foreign key violation: " ++ m
  | checkViolation m => "Check constraint violation: " ++ m
  | serializationConflict m => "Serialization conflict: " ++ m
  | retriesExhausted attempts source =>
    s!"Transaction failed after {attempts} attempt(s): " ++ source.message
  | decode column fault => s!"Decode error on column '{column}': {fault.message}"
  | validation fault => "Validation error: " ++ fault.message
  | mapping fault => "Mapping error: " ++ fault.message
  | transaction fault => "Transaction error: " ++ fault.message
  | pool m => "Pool error: " ++ m
  | other m => m

/-- The word for the kind of an error. -/
def kind : Error → String
  | connection _ => "Connection"
  | query _ => "Query"
  | database .. => "Database"
  | notFound _ => "NotFound"
  | tooManyRows .. => "TooManyRows"
  | rowCount .. => "RowCount"
  | uniqueViolation _ => "UniqueViolation"
  | foreignKeyViolation _ => "ForeignKeyViolation"
  | checkViolation _ => "CheckViolation"
  | serializationConflict _ => "SerializationConflict"
  | retriesExhausted .. => "RetriesExhausted"
  | decode .. => "Decode"
  | validation _ => "Validation"
  | mapping _ => "Mapping"
  | transaction _ => "Transaction"
  | pool _ => "Pool"
  | other _ => "Other"

/-- The state codes of transactions that could not be put in an order: a failed serialization and
a broken deadlock. -/
def isConflictCode (code : String) : Bool := code == "40001" || code == "40P01"

/-- May the transaction succeed when it is tried again? -/
def isConflict : Error → Bool
  | serializationConflict _ => true
  | database code _ => isConflictCode code
  | query (some code) => isConflictCode code
  | retriesExhausted _ source => source.isConflict
  | _ => false

def isNotFound : Error → Bool
  | notFound _ => true
  | _ => false

def isTooManyRows : Error → Bool
  | tooManyRows _ _ => true
  | _ => false

def isValidation : Error → Bool
  | validation _ => true
  | _ => false

def isUniqueViolation : Error → Bool
  | uniqueViolation _ => true
  | _ => false

/-- The errors that this one came from, the nearest first. -/
def sources : Error → List Error
  | retriesExhausted _ source => source :: source.sources
  | _ => []

/-- The error that a state code stands for. -/
def ofState (code message : String) : Error :=
  if code = "23505" then uniqueViolation message
  else if code = "23503" then foreignKeyViolation message
  else if code = "23514" then checkViolation message
  else if isConflictCode code then serializationConflict message
  else database code message

end Error

end DataMapper
