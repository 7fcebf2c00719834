import DataMapper.Monitor.Log
import DataMapper.Monitor.Stats

/-!
# Counting statements

Monitors are told once that a statement has come to its end, and perhaps once more that it was slow.
Statistics count the statements of which they have been told, all of them, those that have failed,
and those of each type.

## Main definitions

* `Notice`, `Report.notice?` — what monitors learn of a statement.
* `Stats.Counts` — statistics that count statements.

## Main statements

* `Stats.counts_foldl` — statistics count what they have been told.
-/

namespace DataMapper

open Sql

/-- What monitors learn of a statement that has come to its end. -/
structure Notice where
  sql : String
  parameters : List Value
  failed : Bool

namespace Report

/-- Of a statement there is one report that it has come to its end. -/
def notice? : Report → Option Notice
  | completed c _ o => some ⟨c.sql, c.parameters, o.isFailure⟩
  | slow .. => none

/-- What is logged of a report. -/
def entry? (threshold : Nat) : Report → Option LogEntry
  | completed c duration o =>
    some (({ slowThreshold := threshold : StatementLog }).entry c duration o)
  | slow .. => none

end Report

namespace Stats

/-- How many statements of a type have been counted; those that are of no other type are left. -/
def number (s : Stats) : StatementType → Nat
  | .select => s.select
  | .insert => s.insert
  | .update => s.update
  | .delete => s.delete
  | .transaction => s.transaction
  | .other => s.total - (s.select + s.insert + s.update + s.delete + s.transaction)

/-- The statistics are those of the statements. -/
structure Counts (s : Stats) (ns : List Notice) : Prop where
  total : s.total = ns.length
  failed : s.failed = ns.countP Notice.failed
  type : ∀ t, s.number t = ns.countP fun n => decide (StatementType.ofText n.sql = t)
  /-- No statement is of two types. -/
  typed_le : s.select + s.insert + s.update + s.delete + s.transaction ≤ s.total

theorem counts_nil : Counts {} [] where
  total := rfl
  failed := rfl
  type t := by cases t <;> rfl
  typed_le := Nat.le_refl _

variable {s : Stats} {ns : List Notice}

/-- A statement is one more of its own type. -/
theorem number_count (typed_le :
      s.select + s.insert + s.update + s.delete + s.transaction ≤ s.total) (k t : StatementType) :
    ({ s.count k with total := s.total + 1 } : Stats).number t =
      s.number t + if k = t then 1 else 0 := by
  cases k <;> cases t <;> simp only [number, count, reduceCtorEq, if_true, if_false] <;> omega

theorem Counts.complete (h : Counts s ns) (c : StatementContext) (duration : Nat) (o : Outcome) :
    Counts (s.complete c duration o) (ns ++ [⟨c.sql, c.parameters, o.isFailure⟩]) := by
  have more (t : StatementType) : (s.complete c duration o).number t =
      ({ s.count c.type with total := s.total + 1 } : Stats).number t := by
    cases type : c.type <;> cases t <;> simp [Stats.complete, type, number, count]
  refine ⟨?_, ?_, ?_, ?_⟩
  · cases type : c.type <;> simp [Stats.complete, type, count, h.total]
  · cases type : c.type <;>
      simp [Stats.complete, type, count, h.failed, List.countP_append, List.countP_cons]
  · intro t
    rw [more, number_count h.typed_le, h.type, List.countP_append, List.countP_singleton]
    by_cases same : StatementType.ofText c.sql = t <;> simp [StatementContext.type, same]
  · have kept := h.typed_le
    cases type : c.type <;> simp only [Stats.complete, type, count] <;> omega

/-- That a statement was slow does not make it another one. -/
theorem Counts.observe (h : Counts s ns) (r : Report) :
    Counts (s.observe r) (ns ++ r.notice?.toList) := by
  cases r with
  | completed c duration o => exact h.complete c duration o
  | slow c duration =>
    rw [show ns ++ (Report.slow c duration).notice?.toList = ns from List.append_nil ns]
    have type (t : StatementType) : (s.observe (.slow c duration)).number t = s.number t := by
      cases t <;> rfl
    exact ⟨h.total, h.failed, fun t => (type t).trans (h.type t), h.typed_le⟩

theorem Counts.foldl (h : Counts s ns) (rs : List Report) :
    Counts (rs.foldl Stats.observe s) (ns ++ rs.filterMap Report.notice?) := by
  induction rs generalizing s ns with
  | nil => simpa using h
  | cons r rs ih =>
    have next := ih (h.observe r)
    rw [List.append_assoc] at next
    cases r <;> exact next

/-- Statistics that begin with nothing count exactly what they have been told. -/
theorem counts_foldl (rs : List Report) :
    Counts (rs.foldl Stats.observe {}) (rs.filterMap Report.notice?) :=
  counts_nil.foldl rs

end Stats

end DataMapper
