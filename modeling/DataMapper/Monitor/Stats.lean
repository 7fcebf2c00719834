import DataMapper.Monitor.Report

/-!
# Statistics

A monitor that counts statements. Durations stop at the greatest number of nanoseconds that 64 bits
hold.
-/

namespace DataMapper

open Sql

/-- The greatest duration that is counted. -/
def maxNanos : Nat := 2 ^ 64 - 1

structure Stats where
  total : Nat := 0
  failed : Nat := 0
  slow : Nat := 0
  totalDuration : Nat := 0
  select : Nat := 0
  insert : Nat := 0
  update : Nat := 0
  delete : Nat := 0
  transaction : Nat := 0
  maxDuration : Nat := 0
  /-- The first statement that took the longest time so far. -/
  slowest : Option String := none
  deriving DecidableEq, Inhabited

namespace Stats

/-- One more statement of a type. -/
def count (s : Stats) : StatementType → Stats
  | .select => { s with select := s.select + 1 }
  | .insert => { s with insert := s.insert + 1 }
  | .update => { s with update := s.update + 1 }
  | .delete => { s with delete := s.delete + 1 }
  | .transaction => { s with transaction := s.transaction + 1 }
  | .other => s

def complete (s : Stats) (c : StatementContext) (duration : Nat) (o : Outcome) : Stats :=
  let d := min duration maxNanos
  let s := s.count c.type
  { s with
    total := s.total + 1
    failed := s.failed + if o.isFailure then 1 else 0
    totalDuration := min (s.totalDuration + d) maxNanos
    maxDuration := max s.maxDuration d
    slowest := if s.maxDuration < d then some c.sql else s.slowest }

def observe (s : Stats) : Report → Stats
  | .completed c duration o => s.complete c duration o
  | .slow _ _ => { s with slow := s.slow + 1 }

end Stats

/-- What can be told of statements. -/
class Monitor (σ : Type) where
  observe : σ → Report → σ

instance : Monitor Stats := ⟨Stats.observe⟩

/-- Several monitors as one. A member is the place of a monitor among those that count; a monitor
that is a member more than once is told everything as often. -/
structure Composite where
  members : List Nat

namespace Composite

def size (c : Composite) : Nat := c.members.length

def isEmpty (c : Composite) : Bool := c.members.isEmpty

def deliver {σ : Type} [Monitor σ] (c : Composite) (r : Report) (monitors : List σ) : List σ :=
  c.members.foldl (fun ms i => ms.modify i (Monitor.observe · r)) monitors

end Composite

end DataMapper
