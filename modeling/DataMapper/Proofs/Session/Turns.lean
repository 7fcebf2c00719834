import DataMapper.Proofs.Session.Shapes

/-!
# Sessions that take turns

Any number of sessions work on one database, in any order. One of them at a time takes a turn: it
runs an operation, ends the transaction around some work, or goes away. Between turns, work inside a
transaction may be interrupted, time passes, and the server may change its mind about its replies.

## Main definitions

* `Move`, `Turn` — what a session does, and what came of it.
* `System`, `System.run` — sessions on one database, and their runs.
-/

namespace DataMapper

open Work

/-- The work has not been interrupted. -/
def Ending.isWhole {α : Type} : Ending α → Bool
  | interrupted _ => false
  | _ => true

@[simp] theorem Ending.isWhole_ofExcept {α : Type} (r : Except Error α) :
    (Ending.ofExcept r).isWhole = true := by
  cases r <;> rfl

/-- Run work against limits of time, and say whether it has come to its end. -/
def Work.timed {α : Type} (deadlines : List Nat) (x : Work α) : Work Bool := fun w =>
  let (ending, v) := x { w with deadlines }
  (.done ending.isWhole, { v with deadlines := w.deadlines })

theorem Work.timed_eq {α : Type} {x : Work α} {w : Workspace} (ds : List Nat)
    {Q : Except Error α → Standing → Prop} {I : Standing → Prop}
    (h : Ends x { w with deadlines := ds } (fun r v => Q r v.standing) I) :
    ∃ whole w', timed ds x w = (.done whole, w') ∧
      if whole then ∃ r, Q r w'.standing else ds ≠ [] ∧ I w'.standing := by
  cases h with
  | @ended r v run kept holds =>
    exact ⟨true, { v with deadlines := w.deadlines }, by simp [timed, run], r, holds⟩
  | @interrupted l v run level holds =>
    refine ⟨false, { v with deadlines := w.deadlines }, by simp [timed, run, Ending.isWhole],
      ?_, holds⟩
    rintro rfl
    cases level

/-! ## Moves -/

/-- What a session may be made to do. Operations may have limits of time, which run out at these
times, the innermost first. -/
inductive Move where
  | act (deadlines : List Nat) (a : Action)
  /-- End the transaction as the work inside it has ended. -/
  | settle (deadlines : List Nat) (outcome : Except Error Unit)
  /-- Go away. -/
  | leave (canSend : Bool)

namespace Move

def deadlines : Move → List Nat
  | act ds _ | settle ds _ => ds
  | leave _ => []

def leaves : Move → Bool
  | leave _ => true
  | _ => false

def rawText? : Move → Option String
  | act _ a => a.rawText?
  | _ => none

def MaySend (m : Move) (sql : String) : Prop := ¬ IsControl sql ∨ m.rawText? = some sql

/-- Make the move, and say whether it has come to its end. -/
def perform : Move → Work Bool
  | act ds a => timed ds a.perform
  | settle ds outcome => timed ds (Session.settle outcome)
  | leave canSend => timed [] (Session.leave canSend)

/-- What a move may make of the standing, whether it comes to its end or not. -/
structure Makes (m : Move) (s : Standing) (whole : Bool) (t : Standing) : Prop where
  does : if whole then Effects m.MaySend s t else m.deadlines ≠ [] ∧ Broken m.MaySend s t
  gone : m.leaves = true → t.session = {}

theorem perform_eq (m : Move) (w : Workspace) :
    ∃ whole w', m.perform w = (.done whole, w') ∧ m.Makes w.standing whole w'.standing := by
  have made {α : Type} {x : Work α} (stays : m.leaves = false) (h : Does (operating m.MaySend) x) :
      ∃ whole w', timed m.deadlines x w = (.done whole, w') ∧
        m.Makes w.standing whole w'.standing := by
    obtain ⟨whole, w', run, holds⟩ := timed_eq (Q := fun _ => Effects m.MaySend w.standing)
      m.deadlines (h { w with deadlines := m.deadlines })
    refine ⟨whole, w', run, ?_, by simp [stays]⟩
    cases whole with
    | true => exact holds.choose_spec
    | false => exact holds
  cases m with
  | act ds a => exact made rfl a.does_perform
  | settle ds outcome => exact made (x := Session.settle outcome) rfl (Session.does_settle outcome)
  | leave canSend =>
    obtain ⟨whole, w', run, holds⟩ := timed_eq
      (Q := fun _ t => Effects (leave canSend).MaySend w.standing t ∧ t.session = {}) []
      (Session.ends_leave (w := { w with deadlines := [] }) (leave canSend).MaySend canSend)
    cases whole with
    | true => exact ⟨true, w', run, holds.choose_spec.1, fun _ => holds.choose_spec.2⟩
    | false => exact absurd rfl holds.1

theorem Makes.accounts {m : Move} {s t : Standing} {whole : Bool} (h : m.Makes s whole t) :
    ∃ r, Accounts s t r ∧ (whole = true → r.lost = []) := by
  cases whole with
  | true =>
    obtain ⟨r, accounts, none⟩ := Effects.accounts h.does
    exact ⟨r, accounts, fun _ => none⟩
  | false =>
    obtain ⟨r, accounts⟩ := h.does.2.accounts
    exact ⟨r, accounts, nofun⟩

end Move

/-! ## Runs -/

/-- A turn of a session, and what came of it. -/
structure Turn where
  session : Nat
  move : Move
  /-- The session before its turn. -/
  before : Session
  /-- The move has come to its end. -/
  whole : Bool
  sent : List SentStatement
  acquired : List Nat

/-- A change of the workspace that has nothing to do with sessions and their connections. -/
structure Aside where
  change : Workspace → Workspace
  standing : ∀ w, (change w).standing = w.standing

inductive Event where
  /-- A new session. -/
  | opened
  | turn (i : Nat) (m : Move)
  /-- Work in the transaction of a session is interrupted while the session has nothing to do. -/
  | cancelled (i : Nat)
  | meanwhile (a : Aside)

def Event.rawText? : Event → Option String
  | .turn _ m => m.rawText?
  | _ => none

/-- Sessions on one database, and the turns that they have taken. -/
structure System where
  /-- What the sessions share. -/
  workspace : Workspace
  /-- Sessions that have gone away leave their places empty. -/
  sessions : List (Option Session) := []
  turns : List Turn := []

namespace System

/-- No session has been opened, and nothing has been asked of the server. -/
def start (config : Config) (rules : List Rule) (store : TextStore)
    (records : List (String × Record)) (draws : List Nat := []) : System where
  workspace := { database := { config, server := { rules }, draws }, store, records }

variable (σ : System)

def ledger : Ledger := σ.workspace.database.server.ledger

/-- The connections in the hands of a session, if it has not gone away. -/
def heldBy : Option Session → List Nat
  | none => []
  | some s => s.held

def held : List Nat := σ.sessions.flatMap heldBy

def take (i : Nat) (m : Move) (s : Session) : System :=
  let (ending, w) := m.perform { σ.workspace with session := s }
  let after := w.database.server
  let whole := match ending with
    | .done whole => whole
    | _ => false
  { workspace := w
    sessions := σ.sessions.set i (if m.leaves then none else some w.session)
    turns := σ.turns ++ [
      { session := i, move := m, before := s, whole
        sent := after.sent.drop σ.ledger.sent.length
        acquired := (List.range' 1 after.acquired).drop σ.ledger.acquired }] }

def step : Event → System
  | .opened => { σ with sessions := σ.sessions ++ [some {}] }
  | .turn i m =>
    match σ.sessions[i]? with
    | some (some s) => σ.take i m s
    | _ => σ
  | .cancelled i =>
    match σ.sessions[i]? with
    | some (some s) => { σ with sessions := σ.sessions.set i (some { s with abandoned := true }) }
    | _ => σ
  | .meanwhile a => { σ with workspace := a.change σ.workspace }

def run (es : List Event) : System := es.foldl step σ

@[simp] theorem run_nil : σ.run [] = σ := rfl

@[simp] theorem run_cons (e : Event) (es : List Event) : σ.run (e :: es) = (σ.step e).run es := rfl

theorem run_append (es fs : List Event) : σ.run (es ++ fs) = (σ.run es).run fs :=
  List.foldl_append

end System

/-! ## Steps -/

/-- A session has taken a turn, which a receipt accounts for. -/
structure Turned (σ : System) (t : Turn) (s : Session) (r : Receipt) (σ' : System) : Prop where
  present : σ.sessions[t.session]? = some (some t.before)
  run : t.move.perform { σ.workspace with session := t.before } = (.done t.whole, σ'.workspace)
  after : σ'.workspace.session = s
  makes : t.move.Makes ⟨t.before, σ.ledger⟩ t.whole ⟨s, σ'.ledger⟩
  accounts : Accounts ⟨t.before, σ.ledger⟩ ⟨s, σ'.ledger⟩ r
  whole : t.whole = true → r.lost = []
  sent : t.sent = r.sent
  acquired : t.acquired = r.acquired
  sessions : σ'.sessions = σ.sessions.set t.session (if t.move.leaves then none else some s)
  turns : σ'.turns = σ.turns ++ [t]

theorem System.turned_take {σ : System} {i : Nat} {s : Session} (m : Move)
    (present : σ.sessions[i]? = some (some s)) :
    ∃ t s' r, t.session = i ∧ t.move = m ∧ Turned σ t s' r (σ.take i m s) := by
  obtain ⟨whole, w, run, makes⟩ := m.perform_eq { σ.workspace with session := s }
  obtain ⟨r, accounts, none⟩ := makes.accounts
  have sent : w.database.server.sent = σ.ledger.sent ++ r.sent := accounts.sent
  have acquired : List.range' 1 w.database.server.acquired =
      List.range' 1 σ.ledger.acquired ++ r.acquired := accounts.acquired
  refine ⟨⟨i, m, s, whole, r.sent, r.acquired⟩, w.session, r, rfl, rfl, present, ?_, ?_, ?_, ?_,
    none, rfl, rfl, ?_, ?_⟩
  · simp only [take, run]
  · simp only [take, run]
  · simp only [take, run]
    exact makes
  · simp only [take, run]
    exact accounts
  · simp only [take, run]
  · simp [take, run, sent, acquired]

/-- What an event may make of a system. -/
inductive Stepped (σ : System) : Event → System → Prop where
  /-- The session has gone away or has not been opened. -/
  | idle {e : Event} : Stepped σ e σ
  | opened : Stepped σ .opened { σ with sessions := σ.sessions ++ [some {}] }
  | turned {t : Turn} {s : Session} {r : Receipt} {σ' : System} (turned : Turned σ t s r σ') :
      Stepped σ (.turn t.session t.move) σ'
  | cancelled {i : Nat} {s : Session} (present : σ.sessions[i]? = some (some s)) :
      Stepped σ (.cancelled i)
        { σ with sessions := σ.sessions.set i (some { s with abandoned := true }) }
  | meanwhile {a : Aside} : Stepped σ (.meanwhile a) { σ with workspace := a.change σ.workspace }

theorem System.ledger_meanwhile (σ : System) (a : Aside) :
    ({ σ with workspace := a.change σ.workspace } : System).ledger = σ.ledger :=
  congrArg Standing.ledger (a.standing σ.workspace)

theorem Stepped.mem_turns {σ σ' : System} {e : Event} (h : Stepped σ e σ') {t : Turn}
    (ht : t ∈ σ.turns) : t ∈ σ'.turns := by
  cases h with
  | idle | opened | cancelled | meanwhile => exact ht
  | turned g => exact g.turns ▸ List.mem_append_left _ ht

theorem Stepped.acquired_le {σ σ' : System} {e : Event} (h : Stepped σ e σ') :
    σ.ledger.acquired ≤ σ'.ledger.acquired := by
  cases h with
  | idle | opened | cancelled => exact Nat.le_refl _
  | turned g => exact g.accounts.acquired_le
  | meanwhile => exact Nat.le_of_eq (congrArg Ledger.acquired (σ.ledger_meanwhile _)).symm

theorem System.stepped_step (σ : System) (e : Event) : Stepped σ e (σ.step e) := by
  cases e with
  | opened => exact .opened
  | turn i m =>
    unfold step
    dsimp only
    split
    · next s present =>
      obtain ⟨t, s', r, rfl, rfl, turned⟩ := turned_take m present
      exact .turned turned
    · exact .idle
  | cancelled i =>
    unfold step
    dsimp only
    split
    · next s present => exact .cancelled present
    · exact .idle
  | meanwhile a => exact .meanwhile

theorem System.mem_turns_run {σ : System} {t : Turn} (ht : t ∈ σ.turns) (es : List Event) :
    t ∈ (σ.run es).turns := by
  induction es generalizing σ with
  | nil => exact ht
  | cons e es ih => exact ih ((σ.stepped_step e).mem_turns ht)

/-- Connections are not unmade. -/
theorem System.acquired_le_run (σ : System) (es : List Event) :
    σ.ledger.acquired ≤ (σ.run es).ledger.acquired := by
  induction es generalizing σ with
  | nil => exact Nat.le_refl _
  | cons e es ih => exact Nat.le_trans (σ.stepped_step e).acquired_le (ih _)

end DataMapper
