import DataMapper.Query.Fragment

/-!
# Settings

What can be set for a database, with defaults, and how settings are read from named texts.
Durations are nanoseconds.
-/

namespace DataMapper

open Number Text Sql

structure Config where
  /-- A statement that takes longer counts as slow. -/
  slowThreshold : Nat := 2000000000
  dialect : Dialect := .postgres
  parameterized : Bool := true
  inlineLiterals : Bool := true
  separator : String := " "
  /-- How often a transaction is tried that conflicts with others. -/
  maxAttempts : Nat := 100
  /-- The shortest and the longest pause before a transaction is tried again. -/
  pauseMin : Nat := 10000000
  pauseMax : Nat := 100000000
  deriving DecidableEq, Inhabited

/-- The greatest number of seconds that a duration can have. -/
def maxSeconds : Nat := 2 ^ 64 - 1

/-- The duration of a number of seconds, rounded to nanoseconds; negative numbers and those that
are too great are no durations. -/
def nanosOfSeconds? (x : Double) : Option Nat :=
  if !x.isFinite || (x.negative && !x.isZero) then none
  else
    let r := x.toRat
    let nanos := roundDiv (r.num.natAbs * 1000000000) r.den
    if nanos / 1000000000 ≤ maxSeconds then some nanos else none

/-- The truth value that a setting's text stands for. -/
def truthOfSetting? (raw : String) : Option Bool :=
  let word := Dialect.normalName raw
  if word ∈ ["1", "true", "yes", "on"] then some true
  else if word ∈ ["0", "false", "no", "off"] then some false
  else none

/-- The dialect with a name, whatever blanks and capitals it is written with. -/
def readDialect (s : String) : Except Error Dialect :=
  match Dialect.ofName? s with
  | some d => .ok d
  | none => .error (.validation (.unknownDialect (Dialect.normalName s)))

namespace Config

def slowSecondsName : String := "SQLRECORD_SLOW_QUERY_SECS"
def dialectName : String := "SQLRECORD_DIALECT"
def parameterizedName : String := "SQLRECORD_PARAMETERIZED"
def separatorName : String := "SQLRECORD_SEPARATOR"
def maxAttemptsName : String := "SQLRECORD_MAX_TX_ATTEMPTS"

def trimmedChars (s : String) : List Char := (trim s).toList

def readSeconds? (raw : String) : Option Nat :=
  match readDouble (trimmedChars raw) with
  | .ok x => nanosOfSeconds? x
  | .error _ => none

/-- A positive number of attempts that 32 bits hold. -/
def readAttempts? (raw : String) : Option Nat :=
  match readInteger 0 (2 ^ 32 - 1) (trimmedChars raw) with
  | .ok n => if 0 < n then some n.toNat else none
  | .error _ => none

/-- The setting with a name: what its text reads as, `default` where it has none, and an error
where the text cannot be read. -/
def setting {α : Type} (lookup : String → Option String) (name : String) (default : α)
    (read : String → Option α) : Except Error α :=
  match lookup name with
  | none => .ok default
  | some raw =>
    match read raw with
    | some a => .ok a
    | none => .error (.validation (.invalidSetting name raw))

/-- The settings with the given texts; the others have their defaults. -/
def ofLookup (lookup : String → Option String) : Except Error Config := do
  let d : Config := {}
  let slowThreshold ← setting lookup slowSecondsName d.slowThreshold readSeconds?
  let dialect ← match lookup dialectName with
    | none => .ok d.dialect
    | some raw => readDialect raw
  let parameterized ← setting lookup parameterizedName d.parameterized truthOfSetting?
  let separator := (lookup separatorName).getD d.separator
  let maxAttempts ← setting lookup maxAttemptsName d.maxAttempts readAttempts?
  return { d with slowThreshold, dialect, parameterized, separator, maxAttempts }

/-- At least one attempt is always made. -/
def withMaxAttempts (c : Config) (n : Nat) : Config := { c with maxAttempts := max 1 n }

/-- The pause lies between the two durations, whichever is the longer. -/
def withPause (c : Config) (a b : Nat) : Config := { c with pauseMin := min a b, pauseMax := max a b }

/-- What new queries begin with. -/
def buildOptions (c : Config) : BuildOptions where
  parameterized := c.parameterized
  inlineLiterals := c.inlineLiterals
  separator := c.separator
  dialect := c.dialect

end Config

end DataMapper
