import DataMapper.Proofs.Session.Actions
import DataMapper.Proofs.Session.Refusals
import DataMapper.Proofs.Session.Transactions

/-!
# Whether a transaction is open

A session without limits of time has a transaction open or has none. Single operations move it
between these two states as a machine would, whatever the server answers; an operation that does not
belong to a state is refused in it.

## Main definitions

* `Action.activeAfter` — the machine.
* `Action.isMisuse` — what does not belong to a state.
* `Action.steps` — operations one after another.

## Main statements

* `Action.steps_move` — operations move the session as the machine says.
-/

namespace DataMapper

open Work

variable {w v : Workspace} {s t : Standing} {ok : String → Prop}

/-! ## Statements -/

/-- While nothing is abandoned, the session stays as it is, and inside a transaction no connection is
acquired. -/
def staying : Course where
  whole s t := s.session.abandoned = false → t.session = s.session ∧
    (s.session.isActive = true → t.ledger.acquired = s.ledger.acquired)
  part _ _ := True
  refl _ _ := ⟨rfl, fun _ => rfl⟩
  trans := by
    intro s t u h g present
    obtain ⟨same, held⟩ := h present
    rw [← same] at present
    obtain ⟨same', held'⟩ := g present
    refine ⟨same'.trans same, fun active => ?_⟩
    rw [held' (same ▸ active), held active]
  part_of_whole _ := trivial
  whole_part _ _ := trivial

namespace Session

theorem Recovered.eq_of_present {b : Bool} (h : Recovered s b t)
    (present : s.session.abandoned = false) : t = s := by
  cases h with
  | present => rfl
  | forgotten | rolledBack => cases present

theorem Used.stays (h : Used ok s t) :
    t.session = s.session ∧
      (s.session.isActive = true → t.ledger.acquired = s.ledger.acquired) := by
  cases h with
  | idle | inside => exact ⟨rfl, fun _ => rfl⟩
  | borrowed => exact ⟨rfl, nofun⟩

theorem stays_of_recovered (h : ∃ b u, Recovered s b u ∧ Used ok u t) : staying.whole s t := by
  obtain ⟨b, u, recovered, used⟩ := h
  intro present
  rw [recovered.eq_of_present present] at used
  exact used.stays

end Session

/-- What operations are made of keeps to a course if using connections does, once what was abandoned
has been rolled back. -/
theorem Course.Bears.of_used {C : Course} (data : ∀ sql, IsData sql → ok sql)
    (whole : ∀ {s t}, (∃ b u, Session.Recovered s b u ∧ Session.Used ok u t) → C.whole s t)
    (part : ∀ s t, C.part s t) : C.Bears ok where
  data
  onConnection h w := ((Session.ends_onConnection h).mono fun _ _ => whole).interrupted_mono
    fun t _ => part w.standing t
  savepointCommand text w := by
    refine ((Session.ends_savepointCommand text).mono ?_).interrupted_mono fun t _ => part _ t
    rintro _ w' (same | used)
    · rw [same]
      exact C.refl _
    · exact whole used

theorem staying_bears (data : ∀ sql, IsData sql → ok sql) : staying.Bears ok :=
  .of_used data Session.stays_of_recovered fun _ _ => trivial

/-! ## The machine -/

namespace Action

/-- Whether a transaction is open after an operation. -/
def activeAfter (active succeeded : Bool) : Action → Bool
  | begin _ => active || succeeded
  | commit | rollback => false
  | _ => active

/-- The operation needs an open transaction and there is none, or the other way round. -/
def isMisuse (active : Bool) : Action → Bool
  | begin _ => active
  | commit | rollback => !active
  | savepoint name | rollbackTo name | release name => !active && Sql.isSavepointName name
  | _ => false

/-- How an operation with this result moves a session. Inside a transaction it acquires nothing; and
where it does not belong it is refused without any trace. -/
structure Moves (a : Action) (w : Workspace) (r : Except Error Answer) (v : Workspace) : Prop where
  active : v.session.isActive = a.activeAfter w.session.isActive r.isOk
  misused : a.isMisuse w.session.isActive = true → (∃ e, r = .error (.transaction e)) ∧ v = w
  held : w.session.isActive = true →
    v.database.server.acquired = w.database.server.acquired

end Action

/-! ## Operations that do not belong -/

namespace Session

theorem eq_of_inactive (present : w.session.abandoned = false)
    (inactive : w.session.isActive = false) : w.session = {} := by
  generalize w.session = s at present inactive
  obtain ⟨k, b⟩ := s
  cases k with
  | none => exact congrArg _ present
  | some => simp_all [isActive]

theorem refuses_finish (free : w.session = {}) (sql : String) :
    (finish sql).Refuses w (.transaction (.inactive sql)) := by
  obtain ⟨database, session, deadlines, store, records, notes⟩ := w
  obtain rfl : session = {} := free
  rfl

theorem refuses_savepointCommand_of_inactive {command name : String} (free : w.session = {})
    (named : Sql.isSavepointName name = true) :
    (savepointCommand command name).Refuses w
      (.transaction (.inactive (command ++ " " ++ name))) := by
  have first : recover w = (.done false, w) := recover_of_present (by rw [free])
  simp [savepointCommand, Refuses, named, first, Work.read, free, Work.fail]

end Session

namespace Action

/-- What does not belong is refused without any trace. -/
theorem refuses_misuse {a : Action} (present : w.session.abandoned = false)
    (misuse : a.isMisuse w.session.isActive = true) :
    ∃ e, a.perform.Refuses w (.transaction e) := by
  have free (inactive : (!w.session.isActive) = true) : w.session = {} :=
    Session.eq_of_inactive present (by simpa using inactive)
  have savepoint {name : String}
      (misuse : (!w.session.isActive && Sql.isSavepointName name) = true) (command : String) :
      ∃ e, (Session.savepointCommand command name >>= fun _ => pure Answer.nothing).Refuses w
        (.transaction e) := by
    obtain ⟨inactive, named⟩ := Bool.and_eq_true_iff.1 misuse
    exact ⟨_, (Session.refuses_savepointCommand_of_inactive (free inactive) named).bind⟩
  cases a with
  | begin o => exact ⟨_, Refuses.bind (Session.start_of_active o misuse)⟩
  | commit | rollback => exact ⟨_, (Session.refuses_finish (free misuse) _).bind⟩
  | savepoint | rollbackTo | release => exact savepoint misuse _
  | _ => cases misuse

/-! ## The operations of the machine -/

theorem ends_nothing {x : Work Unit} {Q : Except Error Unit → Workspace → Prop}
    {I : Standing → Prop} (h : Ends x w Q I) :
    Ends (x >>= fun _ => pure Answer.nothing) w
      (fun r w' => ∃ r', r = r'.map (fun _ => .nothing) ∧ Q r' w') I := by
  refine h.bind ?_ fun e w' holds => ⟨.error e, rfl, holds⟩
  intro _ w₁ holds
  refine (succeeds_pure _).ends ?_
  rintro _ _ ⟨rfl, rfl⟩
  exact ⟨.ok (), rfl, holds⟩

end Action

namespace Session

/-- A session without a transaction has one exactly when the attempt has succeeded, and one that has
a transaction keeps it. -/
theorem Opened.moves {o : Sql.TransactionOptions} {r : Except Error Unit} (h : Opened o s r t) :
    t.session.abandoned = false ∧ t.session.isActive = (s.session.isActive || r.isOk) ∧
      (s.session.isActive = true → t.ledger.acquired = s.ledger.acquired) := by
  cases h with
  | active | refused => exact ⟨rfl, rfl, fun _ => rfl⟩
  | begun | rejected => exact ⟨rfl, rfl, nofun⟩

theorem Finished.moves {sql : String} {r : Except Error Unit} (h : Finished sql s r t) :
    t.session = {} ∧ t.ledger.acquired = s.ledger.acquired := by
  cases h with
  | ended | inactive => exact ⟨rfl, rfl⟩
  | recovered => exact ⟨rfl, Ledger.acquired_putAway _ _⟩

end Session

namespace Action

/-- What an operation that belongs makes of the session. -/
theorem ends_perform {a : Action} (present : w.session.abandoned = false)
    (own : a ≠ .newSession) :
    Ends a.perform w (fun r w' => w'.session.abandoned = false ∧
      w'.session.isActive = a.activeAfter w.session.isActive r.isOk ∧
      (w.session.isActive = true →
        w'.database.server.acquired = w.database.server.acquired)) (fun _ => True) := by
  have finished {sql : String} : Ends (Session.finish sql >>= fun _ => pure Answer.nothing) w
      (fun _ w' => w'.session.abandoned = false ∧ w'.session.isActive = false ∧
        (w.session.isActive = true →
          w'.database.server.acquired = w.database.server.acquired)) (fun _ => True) := by
    refine (ends_nothing (Session.ends_finish fun _ _ => trivial)).mono ?_
    rintro _ w' ⟨r, rfl, finished⟩
    obtain ⟨session, acquired⟩ := finished.moves
    have empty : w'.session = {} := session
    exact ⟨by rw [empty], by rw [empty]; rfl, fun _ => acquired⟩
  cases ordinary : a.isOrdinary with
  | true =>
    have does := does_of_bears ordinary (staying_bears fun _ h => .inl h.not_isControl)
      fun _ => maySend_of_text? (a := a)
    refine ((does w).mono ?_).interrupted_mono fun _ _ => trivial
    intro r w' stays
    obtain ⟨same, held⟩ := stays present
    have session : w'.session = w.session := same
    have machine : a.activeAfter w.session.isActive r.isOk = w.session.isActive := by
      cases a <;> first | rfl | cases ordinary
    exact ⟨by rw [session, present], by rw [session, machine], held⟩
  | false =>
    cases a with
    | begin o =>
      refine (ends_nothing (Session.ends_start o fun _ _ => trivial)).mono ?_
      rintro _ w' ⟨r, rfl, b, s, recovered, opened⟩
      rw [recovered.eq_of_present present] at opened
      obtain ⟨abandoned, active, held⟩ := opened.moves
      have same : (r.map fun _ => Answer.nothing).isOk = r.isOk := by cases r <;> rfl
      exact ⟨abandoned, by rw [same]; exact active, held⟩
    | commit | rollback => exact finished
    | newSession => exact absurd rfl own
    | _ => cases ordinary

/-! ## Operations one after another -/

/-- A single operation, how it ends, and the workspaces around it. -/
structure Step where
  before : Workspace
  action : Action
  ending : Ending Answer
  after : Workspace

/-- Operations one after another, whether they fail or not. -/
def steps (w : Workspace) : List Action → List Step
  | [] => []
  | a :: as =>
    let (ending, v) := a.perform w
    ⟨w, a, ending, v⟩ :: steps v as

/-- A single operation comes to its end and moves the session as the machine says. -/
theorem exists_moves {a : Action} (present : w.session.abandoned = false)
    (free : w.deadlines = []) (own : a ≠ .newSession) :
    ∃ r v, a.perform w = (.ofExcept r, v) ∧ v.session.abandoned = false ∧ v.deadlines = [] ∧
      a.Moves w r v := by
  cases ends_perform present own with
  | @ended r v run kept holds =>
    obtain ⟨abandoned, active, held⟩ := holds
    refine ⟨r, v, run, abandoned, kept.trans free, active, ?_, held⟩
    intro misuse
    obtain ⟨e, refused⟩ := refuses_misuse present misuse
    rw [Refuses, run] at refused
    have failed : Ending.ofExcept r = .ofExcept (.error (.transaction e)) := congrArg Prod.fst refused
    exact ⟨⟨e, Ending.ofExcept_inj failed⟩, congrArg Prod.snd refused⟩
  | interrupted _ level =>
    rw [free] at level
    cases level

/-- The step of the machine for an operation that has been carried out. -/
def Step.next (active : Bool) (s : Step) : Bool :=
  s.action.activeAfter active (match s.ending with
    | .done _ => true
    | _ => false)

theorem Moves.next {a : Action} {r : Except Error Answer} (h : a.Moves w r v) :
    Step.next w.session.isActive ⟨w, a, .ofExcept r, v⟩ = v.session.isActive := by
  rw [h.active]
  cases r <;> rfl

/-- In a session of its own without limits of time every operation comes to its end and moves the
session as the machine says, whatever the server answers: a transaction is opened by a successful
beginning and by nothing else, and it is closed by a commit or a rollback, successful or not, and by
nothing else. So whether one is open before and after an operation, the machine tells from the
operations up to there and how they have ended. -/
theorem steps_move (present : w.session.abandoned = false) (free : w.deadlines = [])
    (as : List Action) (own : .newSession ∉ as) :
    (∀ s ∈ steps w as, ∃ r, s.ending = .ofExcept r ∧ s.action.Moves s.before r s.after) ∧
      ∀ before s after, steps w as = before ++ s :: after →
        s.before.session.isActive = before.foldl Step.next w.session.isActive ∧
        s.after.session.isActive = (before ++ [s]).foldl Step.next w.session.isActive := by
  induction as generalizing w with
  | nil => exact ⟨by simp [steps], by simp [steps]⟩
  | cons a as ih =>
    obtain ⟨first, rest⟩ : Action.newSession ≠ a ∧ .newSession ∉ as := by simpa using own
    obtain ⟨r, v, run, present', free', moves⟩ := exists_moves present free first.symm
    have split : steps w (a :: as) = ⟨w, a, .ofExcept r, v⟩ :: steps v as := by
      simp [steps, run]
    obtain ⟨later, active⟩ := ih present' free' rest
    rw [split]
    refine ⟨?_, ?_⟩
    · intro s hs
      rcases List.mem_cons.1 hs with rfl | hs
      · exact ⟨r, rfl, moves⟩
      · exact later s hs
    · intro before s after same
      cases before with
      | nil =>
        obtain ⟨rfl, -⟩ := List.cons.inj same
        exact ⟨rfl, moves.next.symm⟩
      | cons s₁ before =>
        obtain ⟨rfl, same'⟩ := List.cons.inj same
        rw [List.cons_append, List.foldl_cons, List.foldl_cons, moves.next]
        exact active before s after same'

/-- Every commit fails. -/
def refusingCommit : Workspace where
  database := { config := {}, server := {
    rules := [⟨Session.commitText, .failure (.connection "connection reset"), none⟩] } }

/-- A commit and a savepoint without a transaction are refused, and so is a second beginning; the
commit that fails ends the transaction all the same. -/
theorem steps_move_refusingCommit :
    let as := [commit, begin {}, begin {}, batch "SELECT 1", savepoint "a", commit, release "a"]
    (steps refusingCommit as).map (fun s => (s.before.session.isActive, s.ending matches .done _)) =
        [(false, false), (false, true), (true, false), (true, true), (true, true), (true, false),
          (false, false)] ∧
      (∀ s ∈ steps refusingCommit as, s.before.session.isActive = true →
        s.after.database.server.acquired = s.before.database.server.acquired) ∧
      ∀ s ∈ (steps refusingCommit as).getLast?, s.after.session.isActive = false ∧
        s.after.database.server.sent.map (·.sql) =
          ["BEGIN ISOLATION LEVEL SERIALIZABLE", "SELECT 1", "SAVEPOINT a", "COMMIT"] := by
  intro as
  have present : refusingCommit.session.abandoned = false := rfl
  obtain ⟨moves, -⟩ := steps_move present rfl as (by simp [as])
  refine ⟨rfl, ?_, ?_⟩
  · intro s hs
    obtain ⟨r, -, moved⟩ := moves s hs
    exact moved.held
  · rintro s ⟨⟩
    exact ⟨rfl, by decide⟩

end Action

end DataMapper
