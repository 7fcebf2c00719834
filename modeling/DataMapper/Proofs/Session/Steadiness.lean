import DataMapper.Proofs.Session.Activity
import DataMapper.Proofs.Session.Savepoints

/-!
# Work that leaves an open transaction alone

Inside an open transaction the operations of a session send their statements in it, and that is all
they do there, unless they end it. Another transaction is refused.

## Main definitions

* `Work.Steady` — work that leaves the open transaction and all named savepoints alone.
* `inTransaction` — the course of statements in an open transaction.

## Main statements

* `Action.steady` — operations are steady, unless they end the transaction.
-/

namespace DataMapper

open Work

/-- Inside an open transaction, the work leaves it open and sends nothing in it that begins or ends
a transaction, nor anything about a savepoint that is named by a number. -/
def Work.Steady {α : Type} (x : Work α) : Prop :=
  ∀ (c : Nat) (w : Workspace), w.session = ⟨some c, false⟩ →
    Ends x w (fun _ v => ∃ sts, Session.Stays c w sts v ∧ ∀ st ∈ sts, IsForeign st.sql)
      (fun _ => True)

section

variable {ok : String → Prop} {s t : Standing}

/-- In an open transaction statements are sent, and nothing else is done. -/
def inTransaction (ok : String → Prop) : Course where
  whole s t := ∀ c, s.session = ⟨some c, false⟩ → Sends c ok s t
  part _ _ := True
  refl s c _ := (sending c ok).refl s
  trans := by
    intro s t u h g c isOpen
    obtain ⟨sts, on, rfl⟩ := h c isOpen
    exact (sending c ok).trans ⟨sts, on, rfl⟩ (g c isOpen)
  part_of_whole _ := trivial
  whole_part _ _ := trivial

theorem Session.Used.sends {c : Nat} (h : Used ok s t) (isOpen : s.session = ⟨some c, false⟩) :
    Sends c ok s t := by
  cases h with
  | idle => exact (sending c ok).refl s
  | @inside d l sts on =>
    obtain rfl : d = c := by simpa using isOpen
    exact ⟨sts, on, rfl⟩
  | borrowed => cases isOpen

theorem Session.sends_of_recovered (h : ∃ b u, Recovered s b u ∧ Used ok u t) :
    (inTransaction ok).whole s t := by
  obtain ⟨b, u, recovered, used⟩ := h
  intro c isOpen
  rw [recovered.eq_of_present (by rw [isOpen])] at used
  exact used.sends isOpen

theorem inTransaction_bears (data : ∀ sql, IsData sql → ok sql) : (inTransaction ok).Bears ok :=
  .of_used data Session.sends_of_recovered fun _ _ => trivial

end

theorem Work.steady_of_does {α : Type} {x : Work α} (does : Does (inTransaction IsForeign) x)
    (counted : ∀ w, (x w).2.database.savepoints = w.database.savepoints) : x.Steady := by
  intro c w session
  refine ((does w).with_run.mono ?_).interrupted_mono fun _ _ => trivial
  rintro r v ⟨run, sends⟩
  obtain ⟨sts, on, stands⟩ := sends c session
  have named := counted w
  rw [run] at named
  refine ⟨sts, ?_, fun st hst => (on st hst).2⟩
  exact Session.stays_of_send session (fun st hst => (on st hst).1) stands
    (Nat.le_of_eq named.symm)

theorem Work.steady_of_refuses {α : Type} {x : Work α}
    (h : ∀ w : Workspace, w.session.isActive = true → ∃ e, x.Refuses w e) : x.Steady := by
  intro c w session
  obtain ⟨e, refused⟩ := h w (by rw [session]; rfl)
  exact .ended (r := .error e) refused rfl ⟨[], .refl session, nofun⟩

theorem Work.steady_pure {α : Type} (a : α) : (pure a : Work α).Steady :=
  steady_of_does (.pure a) fun _ => rfl

/-! ## Operations -/

namespace Action

theorem savepoints_eq {a : Action} (ordinary : a.isOrdinary = true) (w : Workspace) :
    (a.perform w).2.database.savepoints = w.database.savepoints := by
  cases operates : a.operates with
  | true => exact (guarded (fun _ _ => trivial) operates).savepoints_eq w
  | false =>
    cases a with
    | sleep nanos =>
      refine savepoints_bind ?_ fun _ _ _ => rfl
      obtain ⟨time, run | ⟨l, run⟩⟩ := pause_cases w nanos <;> rw [run] <;> rfl
    | script | latency | refuse | resetStats => rfl
    | newSession => cases ordinary
    | _ => cases operates

/-- Operations leave a transaction that is open open, unless they end it. -/
def leavesOpen : Action → Bool
  | commit | rollback | newSession => false
  | _ => true

theorem steady {a : Action} (leaves : a.leavesOpen = true)
    (texts : ∀ sql, a.text? = some sql → IsForeign sql) : a.perform.Steady := by
  cases ordinary : a.isOrdinary with
  | true =>
    have bears : (inTransaction IsForeign).Bears IsForeign :=
      inTransaction_bears fun _ => IsData.isForeign
    exact steady_of_does (does_of_bears ordinary bears texts) (savepoints_eq ordinary)
  | false =>
    cases a with
    | begin o =>
      exact steady_of_refuses fun w active => ⟨_, Refuses.bind (Session.start_of_active o active)⟩
    | commit | rollback | newSession => cases leaves
    | _ => cases ordinary

end Action

/-! ## Other transactions -/

/-- Whether a transaction has been begun around work inside another one or not, nothing happens. -/
theorem Session.retry_of_active {α : Type} (o : Sql.TransactionOptions) (body : Work α)
    {w : Workspace} (active : w.session.isActive = true) :
    Session.retry o body w = (.failed (.transaction .alreadyActive), w) := by
  have begun : attempt (Session.start o) w = (.done (.error (.transaction .alreadyActive)), w) := by
    rw [attempt, Session.start_of_active o active]
  unfold Session.retry Session.attempts
  simp [begun, config, Work.read, Error.isConflict, Work.fail, Except.isOk, Except.toBool]

theorem Work.limited_of_active (limit : Option Nat) {x : Work Nat} {e : Error}
    (h : ∀ w : Workspace, w.session.isActive = true → x.Refuses w e) {w : Workspace}
    (active : w.session.isActive = true) : (limited limit x).Refuses w e := by
  cases limit with
  | none => exact (h w active).bind
  | some nanos =>
    refine Refuses.bind ?_
    have refused := h { w with deadlines := (w.database.clock + nanos) :: w.deadlines } active
    rw [Refuses] at refused ⊢
    simp [within, refused]

end DataMapper
