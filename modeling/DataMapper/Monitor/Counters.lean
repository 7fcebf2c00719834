import DataMapper.Monitor.Stats

/-!
# Counters

The words of 64 bits that statistics are kept in. Each of them is read and stored on its own, and a
sum that does not fit is stored without its highest bit at first.
-/

namespace DataMapper

open Sql

structure Counters where
  total : UInt64 := 0
  failed : UInt64 := 0
  slow : UInt64 := 0
  totalDuration : UInt64 := 0
  select : UInt64 := 0
  insert : UInt64 := 0
  update : UInt64 := 0
  delete : UInt64 := 0
  transaction : UInt64 := 0
  maxDuration : UInt64 := 0
  slowest : Option String := none
  /-- The exchange of the greatest duration may fail although the word has not changed: how often it
  does, for each of the statements to come. -/
  misses : List Nat := []

namespace Counters

/-- A duration that does not fit is the greatest word. -/
def word (duration : Nat) : UInt64 :=
  if duration ≤ maxNanos then .ofNat duration else .ofNat maxNanos

/-- One more duration; a sum that has not fit is repaired by a second store. -/
def addDuration (c : Counters) (d : UInt64) : Counters :=
  let added := { c with totalDuration := c.totalDuration + d }
  if c.totalDuration.toNat + d.toNat ≤ maxNanos then added
  else { added with totalDuration := .ofNat maxNanos }

/-- One more statement of a type. -/
def count (c : Counters) : StatementType → Counters
  | .select => { c with select := c.select + 1 }
  | .insert => { c with insert := c.insert + 1 }
  | .update => { c with update := c.update + 1 }
  | .delete => { c with delete := c.delete + 1 }
  | .transaction => { c with transaction := c.transaction + 1 }
  | .other => c

def countFailure (c : Counters) (o : Outcome) : Counters :=
  if o.isFailure then { c with failed := c.failed + 1 } else c

/-- Exchange the greatest duration for a longer one. After a miss the word is read again, and the
exchange is tried as long as what has been read is less. -/
def raise (c : Counters) (sql : String) (d : UInt64) : Nat → Counters
  | 0 => if c.maxDuration < d then { c with maxDuration := d, slowest := some sql } else c
  | misses + 1 => if c.maxDuration < d then c.raise sql d misses else c

def complete (c : Counters) (context : StatementContext) (duration : Nat) (o : Outcome) :
    Counters :=
  let d := word duration
  let counted := { c with total := c.total + 1 }
  let added := ((counted.addDuration d).count context.type).countFailure o
  { added.raise context.sql d (c.misses.headD 0) with misses := c.misses.tail }

def observe (c : Counters) : Report → Counters
  | .completed context duration o => c.complete context duration o
  | .slow _ _ => { c with slow := c.slow + 1 }

instance : Monitor Counters := ⟨observe⟩

/-- Every word is set back; what misses is not up to the counters. -/
def reset (c : Counters) : Counters := { misses := c.misses }

def snapshot (c : Counters) : Stats where
  total := c.total.toNat
  failed := c.failed.toNat
  slow := c.slow.toNat
  totalDuration := c.totalDuration.toNat
  select := c.select.toNat
  insert := c.insert.toNat
  update := c.update.toNat
  delete := c.delete.toNat
  transaction := c.transaction.toNat
  maxDuration := c.maxDuration.toNat
  slowest := c.slowest

end Counters

end DataMapper
