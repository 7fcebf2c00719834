import DataMapper.Proofs.Calendar.Order
import DataMapper.Proofs.Query.Search

/-!
# Ranges of days

A range of days is written as comparisons of a column of points in time with days, where a day
stands for its midnight. The upper one is with the day after the last one of the range, so that the
whole of that day is in it, to the last nanosecond and a leap second behind that.

## Main definitions

* `DayComparison` — the comparisons of a range.

## Main statements

* `Query.betweenDays_means` — the comparisons of a range hold of the points in time within it.
* `DayComparison.holds_before_dayAfter_iff` — what is before the day after, with the last
  representable day, behind which there is none.
-/

namespace DataMapper

open Calendar Sql

/-- A comparison of a column of points in time with the midnight that a day begins with. -/
inductive DayComparison where
  | notBefore (d : Date)
  | before (d : Date)

namespace DayComparison

def Holds (t : Timestamp) : DayComparison → Prop
  | notBefore d => .midnight d ≤ t
  | before d => t < .midnight d

def fragment (q : Query) (column : String) : DayComparison → Fragment
  | notBefore d => q.columnText column ++ .ofString ">=" ++ q.valueText (.date d)
  | before d => q.columnText column ++ .ofString "<" ++ q.valueText (.date d)

/-- The comparisons with the bounds of a range. -/
def ofRange (first last : Option Date) : List DayComparison :=
  (first.map notBefore).toList ++ (last.map fun d => before (Query.dayAfter d)).toList

/-- What is before the day after a day is not behind that day. The last day stands for the one after
it, and is not before itself. -/
theorem holds_before_dayAfter_iff {d : Date} {t : Timestamp} :
    (before (Query.dayAfter d)).Holds t ↔ if d = .last then t.date < d else t.date ≤ d := by
  rw [Holds, Timestamp.lt_midnight_iff, Query.dayAfter]
  cases after : d.next? with
  | none => rw [if_pos (Date.next?_eq_none_iff.1 after), Option.getD_none]
  | some e =>
    have notLast : d ≠ .last := by
      intro last
      rw [Date.next?_eq_none_iff.2 last] at after
      cases after
    rw [if_neg notLast, Option.getD_some, Date.lt_next?_iff after]

/-- The comparisons of a range hold of the points in time of its days. -/
theorem forall_mem_ofRange_iff {first last : Option Date}
    (representable : ∀ e ∈ last, e < Date.last) (t : Timestamp) :
    (∀ c ∈ ofRange first last, c.Holds t) ↔
      (∀ d ∈ first, d ≤ t.date) ∧ ∀ e ∈ last, t.date ≤ e := by
  have lower : (∀ c ∈ (first.map notBefore).toList, c.Holds t) ↔ ∀ d ∈ first, d ≤ t.date := by
    cases first with
    | none => simp
    | some d => simp [Holds, Timestamp.midnight_le_iff]
  have upper : (∀ c ∈ (last.map fun d => before (Query.dayAfter d)).toList, c.Holds t) ↔
      ∀ e ∈ last, t.date ≤ e := by
    cases last with
    | none => simp
    | some e =>
      have notLast : e ≠ .last := by
        rintro rfl
        exact Date.le_last _ (representable _ rfl)
      simp [holds_before_dayAfter_iff, notLast]
  rw [ofRange, List.forall_mem_append, lower, upper]

end DayComparison

namespace Query

variable (q : Query) (column : String)

/-- The tokens of conditions that are joined by `AND`. -/
def conjunction (as : List Fragment) : List (Token Fragment) :=
  chain (.and q.options.separator) (as.map fun a => [.operand a])

theorem spell_conjunction (as : List Fragment) :
    Fragment.spell (q.conjunction as) = Fragment.join q.andText as := by
  rw [conjunction, Fragment.spell_chain, Fragment.map_spell_operands]
  rfl

/-- Conditions that are joined by `AND` are read as all of them. -/
theorem conjunction_means {as : List Fragment} (ne : as ≠ []) :
    ∃ f : Formula Fragment, f.IsReadingOf (q.conjunction as) ∧ ∀ v, f.Holds v ↔ ∀ a ∈ as, v a := by
  obtain ⟨f, reads, holds⟩ :=
    Formula.means_chain (.and q.options.separator) ne fun a _ => Formula.means_operand a
  refine ⟨f, Formula.isReadingOf (.conjunction ?_), holds⟩
  rw [conjunction, map_chain, List.map_map]
  exact reads

theorem dayRange_eq (first last : Option Date) :
    q.dayRange column first last =
      Fragment.join q.andText ((DayComparison.ofRange first last).map (·.fragment q column)) := by
  cases first <;> cases last <;> rfl

/-- A range of days, whose bounds may be points in time of its first and its last day, is written as
comparisons joined by `AND`, and read as nothing else. All of them hold of the points in time from
the beginning of the first day to the end of the last one. A bound that is left out does not
restrict them, and without bounds the query is left as it was. -/
theorem betweenDays_means {α : Type} [CalendarDay α] (conjunct : Bool) (first last : Option α)
    (representable : ∀ e ∈ last, CalendarDay.day e < Date.last) :
    let cs := DayComparison.ofRange (first.map CalendarDay.day) (last.map CalendarDay.day)
    let as := cs.map (·.fragment q column)
    (cs = [] → q.betweenDays conjunct column first last = q) ∧
      (cs ≠ [] →
        q.betweenDays conjunct column first last =
            q.addCondition conjunct (.spell (q.conjunction as)) ∧
          ∃ f : Formula Fragment, f.IsReadingOf (q.conjunction as) ∧
            ∀ v, f.Holds v ↔ ∀ a ∈ as, v a) ∧
      ∀ t : Timestamp, (∀ c ∈ cs, c.Holds t) ↔
        (∀ d ∈ first, CalendarDay.day d ≤ t.date) ∧ ∀ e ∈ last, t.date ≤ CalendarDay.day e := by
  intro cs as
  have unbounded : cs = [] ↔ first = none ∧ last = none := by
    cases first <;> cases last <;> simp [cs, DayComparison.ofRange]
  refine ⟨fun none => ?_, fun some => ⟨?_, ?_⟩, fun t => ?_⟩
  · obtain ⟨rfl, rfl⟩ := unbounded.1 none
    rfl
  · rw [spell_conjunction, betweenDays, between, dayRange_eq, if_neg]
    simpa using mt unbounded.2 some
  · exact q.conjunction_means (mt List.map_eq_nil_iff.1 some)
  · have bounds : ∀ e ∈ last.map CalendarDay.day, e < Date.last := by
      simpa using representable
    rw [DayComparison.forall_mem_ofRange_iff bounds]
    simp

/-- From the end of January to a leap day, whose last nanosecond is the last point in time. -/
theorem betweenDays_means_leap_day :
    let january : Timestamp := ⟨⟨2024, 1, 31, by decide, by decide, by decide⟩,
      ⟨15, 30, 0, 0, by decide, by decide, by decide, by decide⟩⟩
    let february : Timestamp := ⟨⟨2024, 2, 29, by decide, by decide, by decide⟩,
      ⟨8, 0, 0, 0, by decide, by decide, by decide, by decide⟩⟩
    let final : Timestamp := ⟨february.date,
      ⟨23, 59, 59, 999999999, by decide, by decide, by decide, by decide⟩⟩
    (∀ e ∈ some february, CalendarDay.day e < Date.last) ∧
      ((select "events" {}).betweenDays true "at" (some january) (some february)).condition =
        ⟨"at>=? AND at<?".toList,
          [.date january.date, .date ⟨2024, 3, 1, by decide, by decide, by decide⟩]⟩ ∧
      ∀ c ∈ DayComparison.ofRange (some january.date) (some february.date), c.Holds final := by
  intro january february final
  have representable : ∀ e ∈ some february, CalendarDay.day e < Date.last := by
    simp only [Option.mem_some_iff, forall_eq']
    decide
  have means :=
    (select "events" {}).betweenDays_means "at" true (some january) (some february) representable
  refine ⟨representable, rfl, (means.2.2 final).2 ?_⟩
  decide

end Query

end DataMapper
