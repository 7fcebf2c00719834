import DataMapper.Proofs.Session.Commands
import DataMapper.Proofs.Session.Steadiness

/-!
# Nested savepoints

Work inside an open transaction may run parts of itself inside savepoints, one after another and one
inside another, and go on whether they fail or not. Each of them is closed as it has ended before
anything around it goes on, and none meets the savepoint of another.

## Main definitions

* `Body`, `Body.work` — work that is made of steady work and of savepoints around such work.
* `Body.calls` — the work that is to be run inside savepoints, in the course of the whole.

## Main statements

* `Body.savepoints_nested` — all savepoints in a body are nested, and each is closed as its work has
  ended.
* `Command.exists_body` — commands are bodies, unless they end the transaction.
-/

namespace DataMapper

open Work

/-- Work inside a transaction, in which parts are run inside savepoints. -/
inductive Body : Type → Type 1 where
  | step {α : Type} (x : Work α) (steady : x.Steady) : Body α
  | bind {α β : Type} (first : Body α) (next : α → Body β) : Body β
  /-- What follows may depend on whether this has failed. -/
  | attempt {α : Type} (body : Body α) : Body (Except Error α)
  | inSavepoint {α : Type} (body : Body α) : Body α

namespace Body

open Session

/-- The work itself. -/
def work : {α : Type} → Body α → Work α
  | _, step x _ => x
  | _, bind first next => first.work >>= fun a => (next a).work
  | _, attempt body => Work.attempt body.work
  | _, inSavepoint body => Session.inSavepoint body.work

/-- Something that is to be run inside a savepoint, and the workspace in which that is asked for. -/
structure Call where
  {Result : Type}
  body : Body Result
  before : Workspace

/-- The number by which the savepoint is named. -/
def Call.number (k : Call) : Nat := k.before.database.savepoints

/-- What is run inside savepoints in the course of a body, in the order in which the savepoints are
named. -/
def calls : {α : Type} → Body α → Workspace → List Call
  | _, step _ _, _ => []
  | _, bind first next, w =>
    first.calls w ++ match first.work w with
      | (.done a, v) => (next a).calls v
      | _ => []
  | _, attempt body, w => body.calls w
  | _, inSavepoint body, w =>
    ⟨body, w⟩ :: match setNext w with
      | (.done _, v) => body.calls v
      | _ => []

/-- Inside the transaction on the connection, the savepoints of a body are nested. -/
structure Proper {α : Type} (c : Nat) (b : Body α) (w : Workspace) : Prop where
  /-- The transaction stays open, and whatever is run inside a savepoint ends before the whole. -/
  ends : Ends b.work w (fun _ v => Nests c w v ∧ ∀ k ∈ b.calls w, ∃ r u,
      Session.inSavepoint k.body.work k.before = (.ofExcept r, u) ∧ StaysOpen c u v)
    (fun _ => True)
  numbers : (b.calls w).Pairwise fun k l => k.number < l.number
  /-- In the same transaction, each savepoint is closed as its work has ended. -/
  calls : ∀ k ∈ b.calls w, StaysOpen c w k.before ∧
    Ends (Session.inSavepoint k.body.work) k.before (Enclosed c k.body.work k.before)
      (fun _ => True)

section

variable {α β : Type} {c : Nat} {w v : Workspace}

theorem proper_step {x : Work α} (steady : x.Steady) (session : w.session = ⟨some c, false⟩) :
    Proper c (.step x steady) w where
  ends := by
    refine (steady c w session).mono ?_
    rintro r v ⟨sts, stays, foreign⟩
    exact ⟨⟨sts, stays, .foreign stays.named foreign⟩, nofun⟩
  numbers := .nil
  calls := nofun

/-- The number of a call is given to no savepoint behind it. -/
theorem Proper.number_lt {b : Body α} (h : Proper c b w) {r : Except Error α}
    (run : b.work w = (.ofExcept r, v)) {k : Call} (hk : k ∈ b.calls w) :
    k.number < v.database.savepoints := by
  obtain ⟨-, ended⟩ := h.ends.of_run run
  obtain ⟨r', u, ran, after⟩ := ended k hk
  obtain ⟨-, whole⟩ := h.calls k hk
  exact Nat.lt_of_lt_of_le (whole.of_run ran).number_lt after.named

theorem proper_attempt {b : Body α} (h : Proper c b w) : Proper c (.attempt b) w where
  ends := h.ends.attempt.ends fun _ _ holds => holds
  numbers := h.numbers
  calls := h.calls

theorem mem_calls_bind {b : Body α} {f : α → Body β} {k : Call} :
    k ∈ (bind b f).calls w ↔
      k ∈ b.calls w ∨ ∃ a v, b.work w = (.done a, v) ∧ k ∈ (f a).calls v := by
  rw [calls, List.mem_append]
  generalize b.work w = first
  rcases first with ⟨a | e | l, v⟩ <;> simp

theorem mem_calls_inSavepoint {b : Body α} {k : Call} :
    k ∈ (inSavepoint b).calls w ↔
      k = ⟨b, w⟩ ∨ ∃ name v, setNext w = (.done name, v) ∧ k ∈ b.calls v := by
  rw [calls, List.mem_cons]
  generalize setNext w = first
  rcases first with ⟨name | e | l, v⟩ <;> simp

theorem proper_bind {b : Body α} {f : α → Body β} (first : Proper c b w)
    (next : ∀ a v, v.session = ⟨some c, false⟩ → Proper c (f a) v) :
    Proper c (.bind b f) w where
  ends := by
    refine first.ends.with_run.bind ?_ ?_
    · rintro a v ⟨run, nests, ended⟩
      refine (next a v nests.staysOpen.session).ends.mono ?_
      rintro r u ⟨nests', ended'⟩
      refine ⟨nests.trans nests', fun k hk => ?_⟩
      rcases mem_calls_bind.1 hk with hk | ⟨a', v', run', hk⟩
      · obtain ⟨r', u', ran, after⟩ := ended k hk
        exact ⟨r', u', ran, after.trans nests'.staysOpen⟩
      · rw [run] at run'
        cases run'
        exact ended' k hk
    · rintro e v ⟨run, nests, ended⟩
      refine ⟨nests, fun k hk => ?_⟩
      rcases mem_calls_bind.1 hk with hk | ⟨a', v', run', -⟩
      · exact ended k hk
      · rw [run] at run'
        cases run'
  numbers := by
    rw [Body.calls]
    split
    · next a v run =>
      have rest := next a v (first.ends.of_run (r := .ok a) run).1.staysOpen.session
      refine List.pairwise_append.2 ⟨first.numbers, rest.numbers, fun k hk l hl => ?_⟩
      exact Nat.lt_of_lt_of_le (first.number_lt (r := .ok a) run hk) (rest.calls l hl).1.named
    · simpa using first.numbers
  calls k hk := by
    rcases mem_calls_bind.1 hk with hk | ⟨a, v, run, hk⟩
    · exact first.calls k hk
    · have before := (first.ends.of_run (r := .ok a) run).1.staysOpen
      obtain ⟨reached, ends⟩ := (next a v before.session).calls k hk
      exact ⟨before.trans reached, ends⟩

theorem proper_inSavepoint {b : Body α} (session : w.session = ⟨some c, false⟩)
    (inside : ∀ v, v.session = ⟨some c, false⟩ → Proper c b v) :
    Proper c (.inSavepoint b) w :=
  have whole : Ends (Session.inSavepoint b.work) w (Enclosed c b.work w) fun _ => True :=
    ends_inSavepoint session fun u isOpen => (inside u isOpen).ends.mono fun _ _ holds => holds.1
  { ends := by
      refine whole.with_run.mono ?_
      rintro r v ⟨run, enclosed⟩
      refine ⟨enclosed.nests, fun k hk => ?_⟩
      rcases mem_calls_inSavepoint.1 hk with rfl | ⟨name, u, set, hk⟩
      · exact ⟨r, v, run, [], .refl enclosed.nests.staysOpen.session⟩
      · cases enclosed with
        | refused failed =>
          rw [set] at failed
          cases failed
        | closed set' _ _ opens ran _ _ _ _ ends =>
          rw [set] at set'
          cases set'
          obtain ⟨-, ended⟩ := (inside u opens.session).ends.of_run ran
          obtain ⟨r', u', ran', after⟩ := ended k hk
          exact ⟨r', u', ran', after.trans ⟨_, ends⟩⟩
    numbers := by
      rw [Body.calls]
      refine List.pairwise_cons.2 ?_
      split
      · next name u set =>
        obtain ⟨before, counted⟩ := staysOpen_of_setNext session set
        have proper := inside u before.session
        refine ⟨fun k hk => ?_, proper.numbers⟩
        have reached := (proper.calls k hk).1.named
        rw [counted] at reached
        exact reached
      · exact ⟨nofun, .nil⟩
    calls := by
      intro k hk
      rcases mem_calls_inSavepoint.1 hk with rfl | ⟨name, u, set, hk⟩
      · exact ⟨⟨[], .refl session⟩, whole⟩
      · have before := (staysOpen_of_setNext session set).1
        obtain ⟨reached, ends⟩ := (inside u before.session).calls k hk
        exact ⟨before.trans reached, ends⟩ }

/-- Every body is nested, in every transaction that is open. -/
theorem proper (b : Body α) (session : w.session = ⟨some c, false⟩) : Proper c b w := by
  induction b generalizing w with
  | step x steady => exact proper_step steady session
  | bind first next ih₁ ih₂ => exact proper_bind (ih₁ session) fun a v isOpen => ih₂ a isOpen
  | attempt body ih => exact proper_attempt (ih session)
  | inSavepoint body ih => exact proper_inSavepoint session fun v isOpen => ih isOpen

/-- The name of the savepoint. -/
def Call.name (k : Call) : String := Sql.savepointName k.number

/-- Inside an open transaction the savepoints of a body are nested, and so they are inside each of
them, whatever the server answers and whatever fails. No two have the same name: savepoints are
counted without an end here, and a counter of 64 bits begins again only behind 2 ^ 64 of them. None
is closed twice, and what is sent leaves the transaction open. -/
theorem savepoints_nested (b : Body α) (session : w.session = ⟨some c, false⟩) :
    Proper c b w ∧ ((b.calls w).map Call.name).Nodup ∧
      (∀ k ∈ b.calls w, ∀ name v, setNext k.before = (.done name, v) → Proper c k.body v) ∧
      Ends b.work w (fun _ v => ∃ sts, Stays c w sts v ∧ (∀ n, sts.countP (isClosing n) ≤ 1) ∧
          (IsOpen (w.standing.ledger.on c) → IsOpen (v.standing.ledger.on c)))
        (fun _ => True) := by
  have proper := b.proper session
  refine ⟨proper, ?_, ?_, ?_⟩
  · refine List.pairwise_map.2 (proper.numbers.imp fun {k l} lt same => ?_)
    exact Nat.ne_of_lt lt (Sql.savepointName_inj same)
  · intro k hk name v set
    have before := (proper.calls k hk).1.session
    exact k.body.proper (staysOpen_of_setNext before set).1.session
  · refine proper.ends.mono ?_
    rintro _ v ⟨⟨sts, stays, nested⟩, -⟩
    refine ⟨sts, stays, nested.countP_isClosing_le_one, fun isOpen => ?_⟩
    rw [stays.sent]
    exact isOpen.append nested.isPlain

end

/-- A statement about data, in a savepoint of its own. -/
def part (sql : String) (data : IsData sql) : Body (Except Error Answer) :=
  .attempt (.inSavepoint (.step (Action.batch sql).perform
    (Action.steady rfl (by rintro _ ⟨⟩; exact data.isForeign))))

/-- Two parts, of which either may fail. -/
def importing : Body (Except Error Answer) :=
  .inSavepoint (.bind (part "INSERT INTO audit" ⟨"INSERT INTO ", by decide, by decide⟩) fun _ =>
    part "DELETE FROM audit" ⟨"DELETE FROM ", by decide, by decide⟩)

/-- A transaction in which the savepoint of the first part fails, and the second part together with
the rollback to its savepoint. -/
def disturbed : Workspace where
  session := ⟨some 1, false⟩
  database := { config := {}, server := {
    acquired := 1
    sent := [⟨1, "BEGIN ISOLATION LEVEL SERIALIZABLE", [], none⟩]
    rules := [
      ⟨"SAVEPOINT sqlrecord_sp_1", .failure (.other "too many savepoints"), none⟩,
      ⟨"DELETE", .failure (.other "locked"), none⟩,
      ⟨"ROLLBACK TO", .failure (.connection "connection reset"), none⟩] } }

/-- The failure of the second part is told, not that of the rollback behind it. -/
theorem savepoints_nested_importing :
    disturbed.session = ⟨some 1, false⟩ ∧
      (importing.work disturbed).1 = .done (.error (.other "locked")) ∧
      (importing.work disturbed).2.session = ⟨some 1, false⟩ ∧
      IsOpen ((importing.work disturbed).2.standing.ledger.on 1) ∧
      ((importing.calls disturbed).map Call.name).Nodup ∧
      (importing.calls disturbed).map Call.name =
        ["sqlrecord_sp_0", "sqlrecord_sp_1", "sqlrecord_sp_2"] ∧
      ∃ sts m, Stays 1 disturbed sts (importing.work disturbed).2 ∧ Nested 0 sts m ∧
        sts.map (fun st => (st.sql, st.failed)) =
          [("SAVEPOINT sqlrecord_sp_0", false), ("SAVEPOINT sqlrecord_sp_1", true),
            ("SAVEPOINT sqlrecord_sp_2", false), ("DELETE FROM audit", true),
            ("ROLLBACK TO SAVEPOINT sqlrecord_sp_2", true),
            ("RELEASE SAVEPOINT sqlrecord_sp_0", false)] := by
  have session : disturbed.session = ⟨some 1, false⟩ := rfl
  have work : importing.work = Session.inSavepoint (
      Work.attempt (Session.inSavepoint (Action.batch "INSERT INTO audit").perform) >>= fun _ =>
        Work.attempt (Session.inSavepoint (Action.batch "DELETE FROM audit").perform)) := rfl
  have ended : (importing.work disturbed).1 = .done (.error (.other "locked")) := by
    rw [work]
    rfl
  have begun : IsOpen (disturbed.standing.ledger.on 1) := isOpen_begin ⟨{}, .postgres, rfl⟩ rfl
  obtain ⟨proper, names, -, whole⟩ := importing.savepoints_nested session
  obtain ⟨⟨sts, stays, nested⟩, -⟩ := proper.ends.of_ending (r := .ok _) ended
  obtain ⟨-, -, -, isOpen⟩ := whole.of_ending (r := .ok _) ended
  refine ⟨session, ended, stays.session, isOpen begun, names, by decide +kernel, sts, _, stays,
    nested, ?_⟩
  rw [show sts = ((importing.work disturbed).2.standing.ledger.on 1).tail from
    congrArg List.tail stays.sent.symm]
  decide +kernel

theorem steady_note (command : String) (name : Option String) (result : Except Error Answer) :
    (do
      note command name (some result)
      let _ ← ofExcept result : Work Unit).Steady := by
  refine steady_of_does ?_ ?_
  · exact .bind (does_note command name _) fun _ => .bind (.ofExcept result) fun _ => .pure _
  · refine Composed.savepoints_eq (.bind (.quiet (.modify fun _ => .of_database rfl)) fun _ => ?_)
    exact .bind (.ofExcept fun _ _ => trivial) fun _ => .pure _

/-- The work of a body, of which a note is made. -/
def noted (command : String) (name : Option String) (b : Body Answer) : Body Unit :=
  .bind (.attempt b) fun result => .step _ (steady_note command name result)

end Body

/-! ## Commands -/

namespace Command

mutual

/-- The command leaves the transaction that it is carried out in open, and it names no savepoint as
those around work are named. -/
def LeavesOpen : Command → Prop
  | action a => a.leavesOpen = true ∧ ∀ sql, a.text? = some sql → IsForeign sql
  | caught c => c.LeavesOpen
  | inSavepoint body => AllLeaveOpen body
  | transaction .. | retry .. => True

def AllLeaveOpen : List Command → Prop
  | [] => True
  | c :: cs => c.LeavesOpen ∧ AllLeaveOpen cs

end

/-- Work that is refused inside a transaction is a body, with a limit of time and without. -/
theorem exists_body_of_refuses (command : String) (limit : Option Nat) {x : Work Nat} {e : Error}
    (h : ∀ w : Workspace, w.session.isActive = true → x.Refuses w e) :
    ∃ b : Body Unit, b.work = noted command none (limited limit x) :=
  ⟨.noted command none (.step _ (steady_of_refuses fun _ active =>
    ⟨e, limited_of_active limit h active⟩)), rfl⟩

mutual

theorem exists_body (c : Command) (h : c.LeavesOpen) : ∃ b : Body Unit, b.work = c.perform := by
  cases c with
  | action a =>
    obtain ⟨leaves, texts⟩ : a.leavesOpen = true ∧ _ := by simpa only [LeavesOpen] using h
    refine ⟨.noted a.word a.recordName? (.step a.perform (a.steady leaves texts)), ?_⟩
    rw [perform]
    rfl
  | caught c =>
    obtain ⟨b, work⟩ := exists_body c (by simpa only [LeavesOpen] using h)
    refine ⟨.bind (.attempt b) fun _ => .step (pure ()) (steady_pure _), ?_⟩
    rw [perform, ← work]
    rfl
  | inSavepoint body =>
    obtain ⟨b, work⟩ := exists_bodyAll body (by simpa only [LeavesOpen] using h)
    refine ⟨.noted "in_savepoint" none
      (.bind (.inSavepoint b) fun _ => .step (pure .nothing) (steady_pure _)), ?_⟩
    rw [perform, ← work]
    rfl
  | transaction o limit body =>
    rw [perform]
    exact exists_body_of_refuses _ limit fun w active =>
      Refuses.bind (Refuses.bind (Session.start_of_active o active))
  | retry o limit body =>
    rw [perform]
    exact exists_body_of_refuses _ limit fun w active =>
      Refuses.bind (Session.retry_of_active o _ active)

theorem exists_bodyAll (cs : List Command) (h : AllLeaveOpen cs) :
    ∃ b : Body Unit, b.work = performAll cs := by
  cases cs with
  | nil => exact ⟨.step (pure ()) (steady_pure _), by rw [performAll]; rfl⟩
  | cons c cs =>
    obtain ⟨leaves, others⟩ : c.LeavesOpen ∧ AllLeaveOpen cs := by
      simpa only [AllLeaveOpen] using h
    obtain ⟨b, work⟩ := exists_body c leaves
    obtain ⟨bs, works⟩ := exists_bodyAll cs others
    refine ⟨.bind b fun _ => bs, ?_⟩
    rw [performAll, ← work, ← works]
    rfl

end

end Command

end DataMapper
