import DataMapper.Monitor.Report
import DataMapper.Number.Shortest

/-!
# Log entries

What is written to the log about statements and about the work of sessions.
-/

namespace DataMapper

open Number

inductive LogLevel where
  | error | warn | info | debug | trace
  deriving DecidableEq, Repr

namespace LogLevel

def name : LogLevel → String
  | error => "ERROR"
  | warn => "WARN"
  | info => "INFO"
  | debug => "DEBUG"
  | trace => "TRACE"

def ofName? (name : String) : Option LogLevel :=
  [error, warn, info, debug, trace].find? fun l => l.name == name

end LogLevel

/-- What a field of a log entry holds. -/
inductive LogValue where
  | text (s : String)
  | number (n : Nat)
  | float (x : Double)

/-- What an entry is about: a single statement, or the work of a session. -/
inductive LogSource where
  | statement | session
  deriving DecidableEq, Repr

structure LogEntry where
  level : LogLevel
  message : String
  fields : List (String × LogValue)
  source : LogSource

/-- A monitor that logs every statement, and louder those that are slow. -/
structure StatementLog where
  slowThreshold : Nat := 2000000000
  level : LogLevel := .debug
  /-- How many bytes of a statement are shown. -/
  maxLength : Option Nat := none

/-- A duration in nanoseconds as a number of milliseconds, calculated with doubles from its whole
seconds and the rest. -/
def milliseconds (nanos : Nat) : Double :=
  let whole : Double := Binary.ofInt (nanos / 1000000000 : Nat)
  let part : Double := Binary.ofRat (mkRat (nanos % 1000000000 : Nat) 1000000000)
  let seconds : Double := Binary.ofRat (whole.toRat + part.toRat)
  Binary.ofRat (seconds.toRat * 1000)

namespace StatementLog

def isSlow (l : StatementLog) (duration : Nat) : Bool := l.slowThreshold < duration

def shownText (l : StatementLog) (sql : String) : String :=
  match l.maxLength with
  | some n => shorten n sql
  | none => sql

def entry (l : StatementLog) (c : StatementContext) (duration : Nat) (o : Outcome) : LogEntry where
  level := if l.isSlow duration then .warn else l.level
  message := if l.isSlow duration then "slow statement" else "statement"
  fields :=
    [("query_type", .text c.type.name), ("tag", .text (c.tag.getD "-")),
      ("elapsed_ms", .float (milliseconds duration)), ("result", .text o.text),
      ("sql", .text (l.shownText c.sql)), ("params", .text c.parametersText)]
  source := .statement

end StatementLog

end DataMapper
