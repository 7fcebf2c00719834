import DataMapper.Monitor.Counters
import Mathlib.Data.List.DropRight

/-!
# What statistics show

Statistics change with every report, and what they show afterwards can be told from all reports at
once. The words that they are kept in follow them as long as no count has gone through all of its
word: a sum of durations that has not fit is repaired at once and stays at its greatest from then
on, and what the exchange of the greatest duration comes to does not depend on its misses.

## Main definitions

* `Stats.ofReports` — statistics told from all reports at once.
* `Stats.wrapped` — what words of 64 bits hold of statistics.
* `StatsEvent`, `StatsEvent.sinceReset` — what can happen to statistics, and what has been told of
  them since the last reset.

## Main statements

* `Stats.foldl_observe` — statistics that change with every report are those of all of them.
* `Counters.snapshot_observe`, `Counters.snapshot_run` — counters follow statistics, in one step and
  in any number of them.
* `Composite.getElem?_run` — a monitor that is a member several times.
* `Counters.snapshot_run_eq_ofReports` — what counters show.
-/

namespace DataMapper

open Sql

namespace Report

/-- The time of a statement that has come to its end, as far as it is counted. -/
def time? : Report → Option Nat
  | completed _ duration _ => some (min duration maxNanos)
  | slow .. => none

def isOf (t : StatementType) : Report → Bool
  | completed c .. => c.type = t
  | slow .. => false

def isFailed : Report → Bool
  | completed _ _ o => o.isFailure
  | slow .. => false

def isSlow : Report → Bool
  | completed .. => false
  | slow .. => true

def sql : Report → String
  | completed c .. => c.sql
  | slow c _ => c.sql

end Report

/-! ## Statistics of all reports at once -/

namespace Stats

/-- The times of the statements that have come to their end. -/
def times (rs : List Report) : List Nat := rs.filterMap Report.time?

def totalTime (rs : List Report) : Nat := min ((times rs).foldl (· + ·) 0) maxNanos

def longest (rs : List Report) : Nat := (times rs).foldl max 0

/-- The first of the statements that took the longest time, if any took time at all. -/
def slowestOf (rs : List Report) : Option String :=
  if longest rs = 0 then none
  else (rs.find? fun r => r.time? = some (longest rs)).map Report.sql

/-- The number of statements that have come to their end, how many of them failed and were of each
type, how many statements were slow, and the times. -/
def ofReports (rs : List Report) : Stats where
  total := (times rs).length
  failed := rs.countP Report.isFailed
  slow := rs.countP Report.isSlow
  totalDuration := totalTime rs
  select := rs.countP (Report.isOf .select)
  insert := rs.countP (Report.isOf .insert)
  update := rs.countP (Report.isOf .update)
  delete := rs.countP (Report.isOf .delete)
  transaction := rs.countP (Report.isOf .transaction)
  maxDuration := longest rs
  slowest := slowestOf rs

section

variable (rs : List Report) (r : Report)

theorem times_concat : times (rs ++ [r]) = times rs ++ r.time?.toList := by
  cases r <;> simp [times, Report.time?]

theorem totalTime_concat :
    totalTime (rs ++ [r]) = min (totalTime rs + r.time?.getD 0) maxNanos := by
  unfold totalTime
  rw [times_concat, List.foldl_append]
  cases r.time? <;> simp only [Option.toList, List.foldl, Option.getD] <;> omega

theorem longest_concat : longest (rs ++ [r]) = max (longest rs) (r.time?.getD 0) := by
  rw [longest, times_concat, List.foldl_append, ← longest]
  cases r.time? <;> simp

variable {rs r} in
theorem le_longest (mem : r ∈ rs) {d : Nat} (time : r.time? = some d) : d ≤ longest rs := by
  have among : d ∈ times rs := List.mem_filterMap.2 ⟨r, mem, time⟩
  rw [longest, List.foldl_max]
  exact (List.le_max?_getD_of_mem among).trans (Nat.le_max_right ..)

variable {rs} in
/-- Unless all statements took no time at all, one of them took the longest time. -/
theorem exists_longest (took : longest rs ≠ 0) : ∃ r ∈ rs, r.time? = some (longest rs) := by
  induction rs using List.reverseRecOn with
  | nil => exact absurd rfl took
  | append_singleton rs r ih =>
    rw [longest_concat] at took ⊢
    by_cases longer : longest rs < r.time?.getD 0
    · rw [max_eq_right longer.le]
      cases time : r.time? with
      | none => simp [time] at longer
      | some d => exact ⟨r, by simp, time⟩
    · rw [max_eq_left (not_lt.1 longer)] at took ⊢
      obtain ⟨first, mem, time⟩ := ih took
      exact ⟨first, List.mem_append_left _ mem, time⟩

/-- The slowest statement stays the same until one takes longer. -/
theorem slowestOf_concat :
    slowestOf (rs ++ [r]) =
      if longest rs < r.time?.getD 0 then some r.sql else slowestOf rs := by
  unfold slowestOf
  by_cases longer : longest rs < r.time?.getD 0
  -- No statement before has taken as long, so that the new one is the first.
  · obtain ⟨d, time⟩ : ∃ d, r.time? = some d := by
      cases time : r.time? with
      | none => simp [time] at longer
      | some d => exact ⟨d, rfl⟩
    rw [time, Option.getD_some] at longer
    have others : rs.find? (fun r => r.time? = some d) = none := by
      refine List.find?_eq_none.2 fun first mem same => ?_
      have := le_longest mem (of_decide_eq_true same)
      omega
    rw [longest_concat, time, Option.getD_some, max_eq_right longer.le, if_pos longer,
      if_neg (Nat.ne_zero_of_lt longer), List.find?_append, others]
    simp [time]
  · rw [longest_concat, max_eq_left (not_lt.1 longer), if_neg longer]
    split
    next => rfl
    next took =>
      -- The longest time stands already, and the search ends where it did.
      obtain ⟨first, mem, time⟩ := exists_longest took
      have found : (rs.find? fun r => r.time? = some (longest rs)).isSome :=
        List.find?_isSome.2 ⟨first, mem, decide_eq_true time⟩
      rw [List.find?_append, Option.or_of_isSome found]

theorem ofReports_concat : ofReports (rs ++ [r]) = (ofReports rs).observe r := by
  unfold ofReports
  simp only [times_concat, totalTime_concat, longest_concat, slowestOf_concat, List.countP_append,
    List.countP_singleton]
  cases r with
  | slow => simp [Report.time?, Report.isOf, Report.isFailed, Report.isSlow, observe, totalTime]
  | completed c d o =>
    by_cases longer : longest rs < min d maxNanos <;> cases failed : o.isFailure <;>
      cases type : c.type <;>
      simp [Report.time?, Report.isOf, Report.isFailed, Report.isSlow, Report.sql, longer, failed,
        type, observe, complete, count]

theorem foldl_observe : rs.foldl observe {} = ofReports rs := by
  induction rs using List.reverseRecOn with
  | nil => rfl
  | append_singleton rs r ih => rw [List.foldl_append, ih, ofReports_concat]; rfl

end

/-- What is left of counts in words of 64 bits. -/
def wrapped (s : Stats) : Stats :=
  { s with
    total := s.total % 2 ^ 64
    failed := s.failed % 2 ^ 64
    slow := s.slow % 2 ^ 64
    select := s.select % 2 ^ 64
    insert := s.insert % 2 ^ 64
    update := s.update % 2 ^ 64
    delete := s.delete % 2 ^ 64
    transaction := s.transaction % 2 ^ 64 }

/-- What has been lost of counts does not come back. -/
theorem wrapped_observe (s : Stats) (r : Report) :
    (s.wrapped.observe r).wrapped = (s.observe r).wrapped := by
  cases r with
  | slow => simp [observe, wrapped]
  | completed c d o => cases type : c.type <;> simp [observe, complete, wrapped, count, type]

theorem wrapped_ofReports {rs : List Report} (few : rs.length < 2 ^ 64) :
    (ofReports rs).wrapped = ofReports rs := by
  have counted (p : Report → Bool) : rs.countP p % 2 ^ 64 = rs.countP p :=
    Nat.mod_eq_of_lt (List.countP_le_length.trans_lt few)
  have timed : (times rs).length % 2 ^ 64 = (times rs).length :=
    Nat.mod_eq_of_lt ((List.length_filterMap_le ..).trans_lt few)
  simp only [wrapped, ofReports, counted, timed]

end Stats

/-! ## Counters -/

namespace Counters

variable (c : Counters)

theorem toNat_word (duration : Nat) : (word duration).toNat = min duration maxNanos := by
  unfold word
  split <;> simp [maxNanos] at * <;> omega

/-- A sum is never seen before its repair. -/
theorem snapshot_addDuration (d : UInt64) :
    (c.addDuration d).snapshot =
      { c.snapshot with totalDuration := min (c.snapshot.totalDuration + d.toNat) maxNanos } := by
  unfold addDuration
  split
  next fits =>
    have : c.totalDuration.toNat + d.toNat < 2 ^ 64 := by unfold maxNanos at fits; omega
    simp [snapshot, UInt64.toNat_add, Nat.mod_eq_of_lt this, min_eq_left fits]
  next overflow =>
    have : maxNanos % 2 ^ 64 = maxNanos := by decide
    simp [snapshot, this]
    omega

theorem snapshot_count (t : StatementType) :
    (c.count t).snapshot = (c.snapshot.count t).wrapped := by
  cases t <;> simp [snapshot, count, Stats.count, Stats.wrapped]

theorem snapshot_countFailure (o : Outcome) :
    (c.countFailure o).snapshot =
      { c.snapshot with
        failed := (c.snapshot.failed + if o.isFailure then 1 else 0) % 2 ^ 64 } := by
  unfold countFailure
  split <;> simp [snapshot]

/-- The misses of the exchange do not change what it comes to. -/
theorem raise_eq (sql : String) (d : UInt64) (misses : Nat) :
    c.raise sql d misses = c.raise sql d 0 := by
  induction misses with
  | zero => rfl
  | succ misses ih =>
    have again : c.raise sql d (misses + 1) =
        if c.maxDuration < d then c.raise sql d misses else c := rfl
    rw [again, ih, raise, ite_eq_left_iff]
    exact fun short => (if_neg short).symm

theorem snapshot_raise (sql : String) (d : UInt64) (misses : Nat) :
    (c.raise sql d misses).snapshot =
      { c.snapshot with
        maxDuration := max c.snapshot.maxDuration d.toNat
        slowest := if c.snapshot.maxDuration < d.toNat then some sql else c.snapshot.slowest } := by
  rw [raise_eq, raise]
  by_cases longer : c.maxDuration < d
  · have := UInt64.lt_iff_toNat_lt.1 longer
    simp [snapshot, longer, this, this.le]
  · have := mt UInt64.lt_iff_toNat_lt.2 longer
    simp [snapshot, longer, this, not_lt.1 this]

theorem snapshot_complete (context : StatementContext) (duration : Nat) (o : Outcome) :
    (c.complete context duration o).snapshot =
      (c.snapshot.complete context duration o).wrapped := by
  have kept (c : Counters) (misses : List Nat) : { c with misses }.snapshot = c.snapshot := rfl
  have total : { c with total := c.total + 1 }.snapshot =
      { c.snapshot with total := (c.snapshot.total + 1) % 2 ^ 64 } := by
    simp [snapshot]
  simp only [complete, kept, snapshot_raise, snapshot_countFailure, snapshot_count,
    snapshot_addDuration, total, toNat_word, Stats.complete]
  by_cases longer : c.maxDuration.toNat < min duration maxNanos <;> cases type : context.type <;>
    simp [Stats.count, Stats.wrapped, snapshot, longer]

theorem snapshot_observe (r : Report) :
    (c.observe r).snapshot = (c.snapshot.observe r).wrapped := by
  cases r with
  | completed context duration o => exact c.snapshot_complete context duration o
  | slow => simp [observe, Stats.observe, Stats.wrapped, snapshot]

end Counters

/-! ## Runs -/

/-- What can happen to statistics. -/
inductive StatsEvent where
  | told (r : Report)
  | reset

namespace StatsEvent

def report? : StatsEvent → Option Report
  | told r => some r
  | reset => none

/-- A report as often as it is delivered. -/
def repeated (n : Nat) : StatsEvent → List StatsEvent
  | told r => List.replicate n (told r)
  | reset => [reset]

/-- What has been told since the last reset. -/
def sinceReset (es : List StatsEvent) : List Report :=
  (es.rtakeWhile (·.report?.isSome)).filterMap report?

theorem sinceReset_told (es : List StatsEvent) (r : Report) :
    sinceReset (es ++ [told r]) = sinceReset es ++ [r] := by
  simp [sinceReset, report?]

theorem sinceReset_reset (es : List StatsEvent) : sinceReset (es ++ [reset]) = [] := by
  simp [sinceReset, report?]

theorem length_sinceReset_le (es : List StatsEvent) : (sinceReset es).length ≤ es.length :=
  (List.length_filterMap_le ..).trans (List.rtakeWhile_suffix ..).length_le

end StatsEvent

namespace Counters

open StatsEvent

def react (c : Counters) : StatsEvent → Counters
  | .told r => c.observe r
  | .reset => c.reset

def run (c : Counters) (es : List StatsEvent) : Counters := es.foldl react c

theorem run_append (c : Counters) (es fs : List StatsEvent) :
    c.run (es ++ fs) = (c.run es).run fs := List.foldl_append

theorem snapshot_run (misses : List Nat) (es : List StatsEvent) :
    (run { misses } es).snapshot = ((sinceReset es).foldl Stats.observe {}).wrapped := by
  -- The last event decides: a report is one step more, and behind a reset nothing is left.
  induction es using List.reverseRecOn with
  | nil => rfl
  | append_singleton es e ih =>
    rw [run_append]
    cases e with
    | told r =>
      rw [sinceReset_told, List.foldl_append]
      change ((run { misses } es).observe r).snapshot = _
      rw [snapshot_observe, ih, Stats.wrapped_observe]
      rfl
    | reset =>
      rw [sinceReset_reset]
      rfl

end Counters

namespace Composite

variable (all : Composite) (i : Nat)

/-- What happens to several monitors of which one can be reset. -/
def react (monitors : List Counters) : StatsEvent → List Counters
  | .told r => all.deliver r monitors
  | .reset => monitors.modify i Counters.reset

def run (monitors : List Counters) (es : List StatsEvent) : List Counters :=
  es.foldl (all.react i) monitors

/-- A monitor is told a report as often as it is a member. -/
theorem getElem?_deliver {σ : Type} [Monitor σ] (r : Report) (monitors : List σ) :
    (all.deliver r monitors)[i]? =
      monitors[i]?.map ((List.replicate (all.members.count i) r).foldl Monitor.observe) := by
  obtain ⟨members⟩ := all
  unfold deliver
  induction members generalizing monitors with
  | nil => simp
  | cons m members ih =>
    rw [List.foldl_cons, ih, List.getElem?_modify, List.count_cons]
    by_cases same : m = i
    · simp only [same, if_true, beq_self_eq_true, List.replicate_succ, Option.map_eq_map,
        Option.map_map]
      rfl
    · simp [same]

theorem getElem?_run (monitors : List Counters) (es : List StatsEvent) :
    (all.run i monitors es)[i]? =
      monitors[i]?.map (·.run (es.flatMap (·.repeated (all.members.count i)))) := by
  induction es generalizing monitors with
  | nil => simp [run, Counters.run]
  | cons e es ih =>
    rw [run, List.foldl_cons, ← run, ih]
    cases e with
    | told r =>
      rw [show all.react i monitors (.told r) = all.deliver r monitors from rfl, getElem?_deliver,
        Option.map_map]
      congr 2
      funext c
      have reports (n : Nat) : (List.replicate n r).foldl Monitor.observe c =
          c.run (List.replicate n (.told r)) := by
        rw [Counters.run, ← List.map_replicate, List.foldl_map]
        rfl
      rw [Function.comp_apply, reports, List.flatMap_cons, Counters.run_append]
      rfl
    | reset =>
      rw [show all.react i monitors .reset = monitors.modify i Counters.reset from rfl,
        List.getElem?_modify]
      simp only [if_true, Option.map_eq_map, Option.map_map]
      rfl

end Composite

/-- Counters that begin with nothing show the statistics of what has been told since the last reset.
In a composite they show those of every report as often as they are a member of it. -/
theorem Counters.snapshot_run_eq_ofReports (misses : List Nat) (es : List StatsEvent)
    (few : es.length < 2 ^ 64) :
    (run { misses } es).snapshot = .ofReports (StatsEvent.sinceReset es) ∧
      ∀ (all : Composite) (i : Nat) (monitors : List Counters), monitors[i]? = some { misses } →
        (all.run i monitors es)[i]?.map snapshot =
          some (run { misses } (es.flatMap (·.repeated (all.members.count i)))).snapshot := by
  constructor
  · rw [snapshot_run, Stats.foldl_observe,
      Stats.wrapped_ofReports ((StatsEvent.length_sinceReset_le es).trans_lt few)]
  · intro all i monitors fresh
    rw [all.getElem?_run, fresh, Option.map_some, Option.map_some]

/-- Two statements take the longest time that is counted, one of them behind a reset and first. -/
def Counters.saturating : List StatsEvent :=
  [.told (.completed ⟨"UPDATE a", [], none, .empty⟩ 9 .done), .reset,
    .told (.completed ⟨"SELECT a", [], none, .empty⟩ 0 .done),
    .told (.completed ⟨"SELECT b", [], none, .empty⟩ (2 ^ 64) (.failed "b")),
    .told (.slow ⟨"SELECT b", [], none, .empty⟩ (2 ^ 64)),
    .told (.completed ⟨"DELETE FROM c", [], none, .empty⟩ (2 ^ 64 + 5) .done)]

theorem Counters.snapshot_run_saturating :
    saturating.length < 2 ^ 64 ∧
      (run { misses := [1, 0, 2] } saturating).snapshot =
        { total := 3, failed := 1, slow := 1, totalDuration := maxNanos, select := 2, delete := 1,
          maxDuration := maxNanos, slowest := some "SELECT b" } ∧
      ((⟨[0, 0]⟩ : Composite).run 0 [{ misses := [1, 0, 2] }] saturating)[0]?.map snapshot =
        some { total := 6, failed := 2, slow := 2, totalDuration := maxNanos, select := 4,
               delete := 2, maxDuration := maxNanos, slowest := some "SELECT b" } := by
  have few : saturating.length < 2 ^ 64 := by decide
  obtain ⟨alone, held⟩ := snapshot_run_eq_ofReports [1, 0, 2] saturating few
  refine ⟨few, alone.trans (by decide +kernel), (held ⟨[0, 0]⟩ 0 _ rfl).trans ?_⟩
  have twice := snapshot_run_eq_ofReports [1, 0, 2] (saturating.flatMap (·.repeated 2)) (by decide)
  exact congrArg some (twice.1.trans (by decide +kernel))

end DataMapper
