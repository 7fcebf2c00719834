import DataMapper.Monitor.Log
import DataMapper.Monitor.Stats
import DataMapper.Session.Server

/-!
# Notes

What is noted about a command of a session: its result, the statements that were sent since the last
note, what the monitors and the log were told, and how the connections and the records stand.
-/

namespace DataMapper

/-- The result of a command. -/
inductive Answer where
  | nothing
  | number (n : Nat)
  | integer (n : Int64)
  | rows (rows : List Row)
  | record (values : List Value)
  | records (values : List (List Value))
  | stats (s : Stats)
  | interrupted

structure Note where
  command : String
  /-- The end of the last session has no result. -/
  result : Option (Except Error Answer)
  sent : List SentStatement
  reports : List Report
  log : List LogEntry
  acquired : Nat
  released : Nat
  discarded : Nat
  active : Bool
  /-- The values of the record that the command is about, if it is about one and there is one. -/
  record : Option (Option (List Value))

end DataMapper
