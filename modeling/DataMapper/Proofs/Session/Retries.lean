import DataMapper.Proofs.Session.Commands
import DataMapper.Proofs.Session.Transactions

/-!
# Transactions that are tried again

A transaction that meets another one is tried again, for a limited number of times. Every attempt
is a transaction around the same work on a connection of its own; what the last one comes to decides
on the whole.

## Main definitions

* `Error.innermost` — the failure behind those that only report that it came once more.
* `Session.Attempt` — one attempt, and how it went.
* `Session.Tries` — attempts that follow one another.
* `Session.Retried` — the attempts of a whole, and what they make of its result.

## Main statements

* `Session.exists_retryPause_iff` — the pauses between attempts.
* `Session.retry_retried` — work that is tried again is tried as its settings allow.
-/

namespace DataMapper

open Work

namespace Error

/-- The failure behind those that only say how often it came. -/
def innermost : Error → Error
  | retriesExhausted _ source => source.innermost
  | e => e

@[simp] theorem isConflict_innermost (e : Error) : e.innermost.isConflict = e.isConflict := by
  induction e with
  | retriesExhausted attempts source ih => exact ih
  | _ => rfl

end Error

namespace Session

variable {α : Type} {o : Sql.TransactionOptions} {body : Work α}

/-! ## Attempts -/

/-- One attempt, with the workspaces between its parts. -/
structure Attempt (α : Type) where
  before : Workspace
  /-- Whether the transaction could be begun. -/
  opening : Except Error Unit
  opened : Workspace
  outcome : Except Error α
  after : Workspace

namespace Attempt

variable (a : Attempt α)

/-- The connection that was acquired for the attempt, if one was to be had. -/
def connection? : Option Nat :=
  if a.opened.standing.ledger.acquired = a.before.standing.ledger.acquired then none
  else some a.opened.standing.ledger.acquired

/-- The attempt has met another transaction. -/
def conflicts : Bool :=
  match a.outcome with
  | .ok _ => false
  | .error e => e.innermost.isConflict

/-- The result of the whole if this attempt is the last of so many, in which the work has been run
so many times. -/
def verdict (tries runs : Nat) : Except Error (α × Nat) :=
  match a.outcome with
  | .ok x => .ok (x, runs)
  | .error e => .error (if e.isConflict then .retriesExhausted tries e else e)

section

variable {a : Attempt α} {tries runs : Nat} {x : α} {e : Error}

theorem conflicts_of_ok (h : a.outcome = .ok x) : a.conflicts = false := by
  simp [conflicts, h]

theorem conflicts_of_error (h : a.outcome = .error e) : a.conflicts = e.isConflict := by
  simp [conflicts, h]

theorem verdict_eq_ok {n : Nat} :
    a.verdict tries runs = .ok (x, n) ↔ a.outcome = .ok x ∧ n = runs := by
  unfold verdict
  cases a.outcome with
  | ok y => rw [Except.ok.injEq, Prod.mk.injEq, Except.ok.injEq, @eq_comm _ runs n]
  | error e => simp

/-- A failure that is not due to another transaction is told as it is. -/
theorem verdict_eq_error (other : e.isConflict = false) :
    a.verdict tries runs = .error e ↔ a.outcome = .error e := by
  unfold verdict
  cases a.outcome with
  | ok => simp
  | error e' =>
    rw [Except.error.injEq, Except.error.injEq]
    split
    · next met =>
      have apart : e'.isConflict ≠ e.isConflict := by simp [met, other]
      refine ⟨?_, ?_⟩
      · rintro rfl
        exact absurd rfl apart
      · rintro rfl
        exact absurd rfl apart
    · rfl

/-- What is told to have come in every attempt is the failure of the last. -/
theorem verdict_eq_exhausted {bound : Nat} (met : e.isConflict = true) :
    a.verdict tries runs = .error (.retriesExhausted bound e) ↔
      a.outcome = .error e ∧ tries = bound := by
  unfold verdict
  cases a.outcome with
  | ok => simp
  | error e' =>
    rw [Except.error.injEq, Except.error.injEq]
    split
    · rw [Error.retriesExhausted.injEq, and_comm]
    · next other =>
      refine ⟨?_, ?_⟩
      · rintro rfl
        exact absurd met other
      · rintro ⟨rfl, -⟩
        exact absurd met other

end

/-- The attempt is one at this work. -/
structure IsOf (o : Sql.TransactionOptions) (body : Work α) : Prop where
  start : Session.start o a.before = (.ofExcept a.opening, a.opened)
  /-- The transaction is begun by a statement of its own, on the next connection. -/
  begin : ∀ c, a.connection? = some c → c = a.before.standing.ledger.acquired + 1 ∧ ∃ st d,
    a.opened.standing.ledger.sent.getLast? = some st ∧ st.connection = c ∧
      st.sql = o.beginText d ∧ a.opening = Reply.completion st.reply
  held : a.opening = .ok () → ∃ c, a.connection? = some c ∧ a.opened.session = ⟨some c, false⟩
  /-- Without a transaction the work is not run. -/
  refused : ∀ e, a.opening = .error e → a.outcome = .error e ∧ a.after = a.opened
  /-- Inside its transaction, the work is run once. -/
  ran : a.opening = .ok () → conclude body a.opened = (.ofExcept a.outcome, a.after) ∧
    ∃ result w own, body a.opened = (.ofExcept result, w) ∧
      Concluded result w.standing own a.outcome a.after.standing ∧
      ∀ c, w.session.connection = some c → ∃ st, own = [st] ∧ st.connection = c ∧
        (st.sql = commitText ∨ st.sql = rollbackText)
  closed : a.after.session.connection = none

end Attempt

/-- Work that leaves a transaction open has it ended by one statement. -/
theorem Concluded.exists_ending {result r : Except Error α} {s t : Standing}
    {own : List SentStatement} (h : Concluded result s own r t) {c : Nat}
    (isOpen : s.session.connection = some c) : ∃ st, own = [st] ∧ st.connection = c ∧
      (st.sql = commitText ∨ st.sql = rollbackText) := by
  cases result with
  | error e =>
    obtain ⟨st, single, on, text⟩ := h.rolledBack e c rfl isOpen
    exact ⟨st, single, on, .inr text⟩
  | ok a =>
    have session : s.session = ⟨some c, s.session.abandoned⟩ := by rw [← isOpen]
    cases abandoned : s.session.abandoned with
    | false =>
      obtain ⟨st, single, on, text, -⟩ := h.committed a c rfl (abandoned ▸ session)
      exact ⟨st, single, on, .inl text⟩
    | true =>
      obtain ⟨-, st, single, on, text⟩ := h.abandoned a c rfl (abandoned ▸ session)
      exact ⟨st, single, on, .inr text⟩

/-- Whatever an attempt to run work in a transaction comes to, it is an attempt at that work. -/
theorem Attempt.isOf_of_start {a : Attempt α} (inactive : a.before.session.isActive = false)
    (start : Session.start o a.before = (.ofExcept a.opening, a.opened))
    (refused : ∀ e, a.opening = .error e → a.outcome = .error e ∧ a.after = a.opened)
    (ran : a.opening = .ok () → conclude body a.opened = (.ofExcept a.outcome, a.after)) :
    a.IsOf o body := by
  obtain ⟨b, s, recovered, opened⟩ := opened_of_start start
  have free : s.session = {} := recovered.session_eq inactive
  have same := recovered.acquired_eq
  refine ⟨start, ?_, ?_, refused, ?_, ?_⟩
  · intro c acquired
    rcases opened.begin free with ⟨none, -⟩ | ⟨next, -, st, d, sent, on, text, answered⟩
    · simp [connection?, none, same] at acquired
    · have here : c = a.opened.standing.ledger.acquired := by
        simp only [connection?] at acquired
        grind
      have last : a.opened.standing.ledger.sent.getLast? = some st := by
        rw [sent, List.getLast?_concat]
      exact ⟨by omega, st, d, last, on.trans here.symm, text, answered⟩
  · intro fine
    rcases opened.begin free with ⟨-, e, failed⟩ | ⟨next, held, -⟩
    · rw [fine] at failed
      cases failed
    · refine ⟨_, ?_, held fine⟩
      rw [connection?, if_neg (by omega)]
  · intro fine
    have concluded := ran fine
    obtain ⟨result, w, own, ran, conclusion⟩ := concluded_of_conclude concluded
    exact ⟨concluded, result, w, own, ran, conclusion,
      fun c isOpen => conclusion.exists_ending isOpen⟩
  · cases opening : a.opening with
    | ok =>
      obtain ⟨_, _, _, _, conclusion⟩ := concluded_of_conclude (ran opening)
      exact conclusion.closed
    | error e =>
      rw [(refused e opening).2]
      rcases opened.session_eq free with ⟨fine, -⟩ | ⟨-, empty⟩
      · rw [opening] at fine
        cases fine
      · exact congrArg Session.connection empty

section

variable {a : Attempt α}

theorem Attempt.connection?_eq_none :
    a.connection? = none ↔
      a.opened.standing.ledger.acquired = a.before.standing.ledger.acquired := by
  simp [connection?]

theorem Attempt.eq_of_connection? {c : Nat} (h : a.connection? = some c) :
    c = a.opened.standing.ledger.acquired := by
  simp only [connection?] at h
  grind

/-- The work inside its transaction acquires connections, if it does anything with them. -/
theorem Attempt.IsOf.acquired_le (is : a.IsOf o body) {ok : String → Prop}
    (plays : Plays ok body) :
    a.opened.standing.ledger.acquired ≤ a.after.standing.ledger.acquired := by
  cases opening : a.opening with
  | ok =>
    obtain ⟨-, _, w, _, ran, conclusion, -⟩ := is.ran opening
    rw [conclusion.acquired]
    exact plays.acquired_le ran
  | error e => exact Nat.le_of_eq (by rw [(is.refused e opening).2])

end

/-! ## Pauses -/

theorem retryPause_eq (w : Workspace) :
    ∃ millis draws, retryPause w = (.done (millis * 1000000), { w with database.draws := draws }) ∧
      shortestPause w.database.config ≤ millis ∧ millis ≤ longestPause w.database.config := by
  obtain ⟨millis, draws, drawn, least, most⟩ :=
    draw_eq (shortestPause w.database.config) (longestPause w.database.config) w
  have ordered : shortestPause w.database.config ≤ longestPause w.database.config :=
    Nat.le_max_left _ _
  have run : retryPause w = (draw (shortestPause w.database.config)
      (longestPause w.database.config) >>= fun millis => pure (millis * 1000000)) w := rfl
  refine ⟨millis, draws, ?_, least, Nat.max_eq_right ordered ▸ most⟩
  rw [run, bind_apply, drawn]
  rfl

/-- The pauses that can be drawn are all those of whole milliseconds between the shortest and the
longest one. -/
theorem exists_retryPause_iff {w : Workspace} {nanos : Nat} :
    (∃ draws, (retryPause { w with database.draws := draws }).1 = .done nanos) ↔
      ∃ millis, nanos = millis * 1000000 ∧
        shortestPause w.database.config ≤ millis ∧ millis ≤ longestPause w.database.config := by
  constructor
  · rintro ⟨draws, pause⟩
    obtain ⟨millis, _, run, between⟩ := retryPause_eq { w with database.draws := draws }
    rw [run] at pause
    cases pause
    exact ⟨millis, rfl, between⟩
  · rintro ⟨millis, rfl, least, most⟩
    obtain ⟨more, rfl⟩ := Nat.exists_eq_add_of_le least
    have run : (retryPause { w with database.draws := [more] }).1 =
        .done ((shortestPause w.database.config + more % (longestPause w.database.config -
          shortestPause w.database.config + 1)) * 1000000) := rfl
    exact ⟨[more], by rw [run, Nat.mod_eq_of_lt (by omega)]⟩

theorem eq_atTime_of_pause {nanos : Nat} {w v : Workspace} (run : pause nanos w = (.done (), v)) :
    v = w.atTime (w.database.clock + nanos) := by
  unfold pause at run
  dsimp only at run
  split at run <;> cases run
  rfl

theorem pause_ne_failed {nanos : Nat} {w v : Workspace} {e : Error} :
    pause nanos w ≠ (.failed e, v) :=
  fun run => (succeeds_pause (I := fun _ => True) nanos trivial).of_run (r := .error e) run

/-! ## Attempts that follow one another -/

/-- Time has passed since, and something may have been logged and drawn. -/
def Later (w v : Workspace) : Prop :=
  ∃ clock log draws,
    v = { w with database := { w.database with clock := clock, log := log, draws := draws } }

theorem Later.standing_eq {w v : Workspace} (h : Later w v) : v.standing = w.standing := by
  obtain ⟨clock, log, draws, rfl⟩ := h
  rfl

/-- Attempts from a workspace to another one, the first of them followed by at most `left` more. -/
inductive Tries (o : Sql.TransactionOptions) (body : Work α) :
    Nat → Workspace → List (Attempt α) → Workspace → Prop where
  | last {left : Nat} {a : Attempt α} {v : Workspace} (is : a.IsOf o body)
      (stop : a.conflicts = false ∨ left = 0) (later : Later a.after v) :
      Tries o body left a.before [a] v
  | again {left : Nat} {a : Attempt α} {w v : Workspace} {as : List (Attempt α)}
      (is : a.IsOf o body) (conflicts : a.conflicts = true)
      (later : Later a.after w) (rest : Tries o body left w as v) :
      Tries o body (left + 1) a.before (a :: as) v

/-- An attempt has one outcome, whether its work was run or not. -/
theorem exists_outcome {β : Type} {next : Except Error α → Work β} {opening : Except Error Unit}
    {opened v : Workspace} {r : Except Error β}
    (run : (match opening with
      | .ok () => attempt (conclude body) >>= next
      | .error e => (pure (.error e) : Work (Except Error α)) >>= next) opened = (.ofExcept r, v)) :
    ∃ outcome after, next outcome after = (.ofExcept r, v) ∧
      (∀ e, opening = .error e → outcome = .error e ∧ after = opened) ∧
      (opening = .ok () → conclude body opened = (.ofExcept outcome, after)) := by
  cases opening with
  | ok =>
    rcases bind_eq_ofExcept run with ⟨e, failed, -⟩ | ⟨outcome, after, ended, run⟩
    · exact absurd failed attempt_ne_failed
    · exact ⟨outcome, after, run, nofun, fun _ => attempt_eq_done.1 ended⟩
  | error e =>
    refine ⟨.error e, opened, run, ?_, nofun⟩
    rintro _ ⟨⟩
    exact ⟨rfl, rfl⟩

/-- An attempt is made. It is the last one, or it is followed by the others. -/
theorem exists_attempt {number runs left : Nat} {w v : Workspace} {r : Except Error (α × Nat)}
    (inactive : w.session.isActive = false)
    (run : attempts o body number runs left w = (.ofExcept r, v)) :
    ∃ a : Attempt α, a.before = w ∧ a.IsOf o body ∧
      let runs' := if a.opening.isOk then runs + 1 else runs
      ((a.conflicts = false ∨ left = 0) ∧ Later a.after v ∧ r = a.verdict number runs' ∨
        a.conflicts = true ∧ ∃ left' w', left = left' + 1 ∧ Later a.after w' ∧
          attempts o body (number + 1) runs' left' w' = (.ofExcept r, v)) := by
  unfold attempts at run
  rcases bind_eq_ofExcept run with ⟨e, failed, -⟩ | ⟨opening, opened, began, run⟩
  · exact absurd failed attempt_ne_failed
  obtain ⟨outcome, after, run, refused, ran⟩ := exists_outcome run
  refine ⟨⟨w, opening, opened, outcome, after⟩, rfl,
    Attempt.isOf_of_start inactive (attempt_eq_done.1 began) refused ran, ?_⟩
  cases outcome with
  | ok x =>
    obtain ⟨result, rfl⟩ := Prod.mk.inj run
    exact .inl ⟨.inl rfl, ⟨_, _, _, rfl⟩, Ending.ofExcept_inj result.symm⟩
  | error e =>
    have conflicts := e.isConflict_innermost
    dsimp only [Attempt.conflicts, Attempt.verdict] at run ⊢
    rw [conflicts]
    split at run
    · next other =>
      have other : e.isConflict = false := by simpa using other
      obtain ⟨rfl, rfl⟩ := (ends_fail (I := fun _ => True) e).of_run run
      exact .inl ⟨.inl other, ⟨_, _, _, rfl⟩, by simp [other]⟩
    · next met =>
      have met : e.isConflict = true := by simpa using met
      cases left with
      | zero =>
        rcases bind_eq_ofExcept run with ⟨_, failed, -⟩ | ⟨_, w₁, warned, run⟩
        · cases failed
        obtain ⟨rfl, rfl⟩ := (ends_fail (I := fun _ => True) _).of_run run
        obtain ⟨-, rfl⟩ := Prod.mk.inj warned
        exact .inl ⟨.inr rfl, ⟨_, _, _, rfl⟩, by simp [met]⟩
      | succ left =>
        rcases bind_eq_ofExcept run with ⟨_, failed, -⟩ | ⟨_, w₁, logged, run⟩
        · cases failed
        obtain ⟨millis, draws, drawn, -⟩ := retryPause_eq w₁
        rcases bind_eq_ofExcept run with ⟨_, failed, -⟩ | ⟨nanos, w₂, pause, run⟩
        · rw [drawn] at failed
          cases failed
        rcases bind_eq_ofExcept run with ⟨e', failed, -⟩ | ⟨_, w₃, paused, again⟩
        · exact (pause_ne_failed failed).elim
        have later : Later after w₃ := by
          rw [eq_atTime_of_pause paused]
          rw [drawn] at pause
          cases pause
          cases logged
          exact ⟨_, _, _, rfl⟩
        exact .inr ⟨met, left, w₃, rfl, later, again⟩

/-- The attempts that could be begun are those that have run the work. -/
theorem runs_add_countP (a : Attempt α) (as : List (Attempt α)) (runs : Nat) :
    (if a.opening.isOk then runs + 1 else runs) + as.countP (·.opening.isOk) =
      runs + (a :: as).countP (·.opening.isOk) := by
  rw [List.countP_cons]
  split <;> omega

theorem tries_of_attempts {number runs left : Nat} {w v : Workspace} {r : Except Error (α × Nat)}
    (inactive : w.session.isActive = false)
    (run : attempts o body number runs left w = (.ofExcept r, v)) :
    ∃ as a, Tries o body left w as v ∧ as.getLast? = some a ∧
      r = a.verdict (number + (as.length - 1)) (runs + as.countP (·.opening.isOk)) := by
  induction left generalizing number runs w with
  | zero =>
    obtain ⟨a, rfl, is, ⟨stop, later, result⟩ | ⟨-, _, _, none, -⟩⟩ := exists_attempt inactive run
    · exact ⟨[a], a, .last is stop later, rfl, runs_add_countP a [] runs ▸ result⟩
    · cases none
  | succ left ih =>
    obtain ⟨a, rfl, is, ⟨stop, later, result⟩ | ⟨conflicts, _, w', some, later, run⟩⟩ :=
      exists_attempt inactive run
    · exact ⟨[a], a, .last is stop later, rfl, runs_add_countP a [] runs ▸ result⟩
    · obtain rfl := Nat.succ.inj some
      have session : w'.session = a.after.session := congrArg Standing.session later.standing_eq
      have free : w'.session.isActive = false := by
        rw [session, Session.isActive, is.closed]
        rfl
      obtain ⟨as, b, tries, last, result⟩ := ih free run
      have some : 0 < as.length := List.length_pos_of_ne_nil (by rintro rfl; cases last)
      have count : number + 1 + (as.length - 1) = number + ((a :: as).length - 1) := by
        rw [List.length_cons]
        omega
      refine ⟨a :: as, b, .again is conflicts later tries, ?_, ?_⟩
      · rw [List.getLast?_cons, last]
        rfl
      · rw [result, runs_add_countP, count]

namespace Tries

variable {left : Nat} {w v : Workspace} {as : List (Attempt α)} {a : Attempt α}

theorem isOf (h : Tries o body left w as v) : ∀ b ∈ as, b.IsOf o body := by
  induction h with
  | last is => simpa using is
  | again is _ _ _ ih => simpa [is] using ih

theorem ne_nil (h : Tries o body left w as v) : as ≠ [] := by
  cases h <;> simp

theorem length_le (h : Tries o body left w as v) : as.length ≤ left + 1 := by
  induction h with
  | last => simp
  | again _ _ _ _ ih => simpa using ih

theorem before_head (h : Tries o body left w as v) : as.head?.map Attempt.before = some w := by
  cases h <;> rfl

theorem linked (h : Tries o body left w as v) :
    as.IsChain fun a b => Later a.after b.before := by
  induction h with
  | last => exact .singleton _
  | again _ _ later rest ih =>
    cases rest with
    | last | again => exact .cons_cons later ih

theorem after_last (h : Tries o body left w as v) (last : as.getLast? = some a) :
    Later a.after v := by
  induction h with
  | last _ _ later =>
    cases last
    exact later
  | again _ _ _ rest ih => exact ih (List.getLast?_cons_of_ne_nil rest.ne_nil ▸ last)

/-- One attempt follows another if that has met another transaction and one is left. -/
theorem next (h : Tries o body left w as v) (k : Nat) (lt : k < as.length) :
    k + 1 < as.length ↔ as[k].conflicts = true ∧ k < left := by
  induction h generalizing k with
  | last _ stop =>
    obtain rfl : k = 0 := by simpa using lt
    rcases stop with fine | none
    · simp [fine]
    · simp [none]
  | again _ conflicts _ rest ih =>
    cases k with
    | zero => simp [conflicts, List.length_pos_of_ne_nil rest.ne_nil]
    | succ k => simpa using ih k (by simpa using lt)

/-- An attempt that has met no other transaction is the last. -/
theorem eq_last (h : Tries o body left w as v) {b : Attempt α} (mem : b ∈ as)
    (alone : b.conflicts = false) (last : as.getLast? = some a) : b = a := by
  induction h with
  | last => simp_all
  | again _ conflicts _ rest ih =>
    rw [List.getLast?_cons_of_ne_nil rest.ne_nil] at last
    rcases List.mem_cons.1 mem with rfl | mem
    · rw [conflicts] at alone
      cases alone
    · exact ih mem last

/-- If even the last attempt has met another transaction, all allowed ones were made. -/
theorem all_conflict (h : Tries o body left w as v) (last : as.getLast? = some a)
    (conflicts : a.conflicts = true) : as.length = left + 1 ∧ ∀ b ∈ as, b.conflicts = true := by
  induction h with
  | last _ stop => simp_all
  | again _ conflicts' _ rest ih =>
    rw [List.getLast?_cons_of_ne_nil rest.ne_nil] at last
    obtain ⟨length, all⟩ := ih last
    exact ⟨by rw [List.length_cons, length], List.forall_mem_cons.2 ⟨conflicts', all⟩⟩

theorem pairwise_lt_of_le {m n : Nat} {cs : List Nat} (le : m ≤ n)
    (h : (n :: cs).Pairwise (· < ·)) : (m :: cs).Pairwise (· < ·) := by
  obtain ⟨above, apart⟩ := List.pairwise_cons.1 h
  exact List.pairwise_cons.2 ⟨fun c hc => Nat.lt_of_le_of_lt le (above c hc), apart⟩

/-- Every attempt has a connection that none had before it. -/
theorem connections (h : Tries o body left w as v) {ok : String → Prop} (plays : Plays ok body) :
    (w.standing.ledger.acquired :: as.filterMap Attempt.connection?).Pairwise (· < ·) := by
  have attempt {a : Attempt α} (is : a.IsOf o body) {cs : List Nat}
      (rest : (a.after.standing.ledger.acquired :: cs).Pairwise (· < ·)) :
      (a.before.standing.ledger.acquired :: (a.connection?.toList ++ cs)).Pairwise (· < ·) := by
    have grown := is.acquired_le plays
    cases acquired : a.connection? with
    | none =>
      have same := Attempt.connection?_eq_none.1 acquired
      exact pairwise_lt_of_le (by omega) rest
    | some c =>
      obtain ⟨next, -⟩ := is.begin c acquired
      have here := Attempt.eq_of_connection? acquired
      have later : (c :: cs).Pairwise (· < ·) := pairwise_lt_of_le (by omega) rest
      exact List.pairwise_cons.2
        ⟨List.forall_mem_cons.2 ⟨by omega, fun d hd => by
          have := (List.pairwise_cons.1 later).1 d hd
          omega⟩, later⟩
  induction h with
  | @last left a v is =>
    have alone := attempt is (List.pairwise_singleton _ _)
    rwa [List.append_nil] at alone
  | @again left a w v as is _ later rest ih =>
    rw [later.standing_eq] at ih
    have behind := attempt is ih
    cases acquired : a.connection? <;> simpa [acquired] using behind

end Tries

/-! ## The whole -/

/-- The attempts at work that is tried at most `bound` times, and what they make of the whole. -/
structure Retried (o : Sql.TransactionOptions) (body : Work α) (bound : Nat) (w : Workspace)
    (as : List (Attempt α)) (r : Except Error (α × Nat)) (v : Workspace) : Prop where
  attempts : ∀ a ∈ as, a.IsOf o body
  first : as.head?.map Attempt.before = some w
  linked : as.IsChain fun a b => Later a.after b.before
  last : ∃ a, as.getLast? = some a ∧ Later a.after v
  bounded : as.length ≤ bound
  /-- There is another attempt exactly behind one below the bound that has met another
  transaction. -/
  next : ∀ k (lt : k < as.length),
    k + 1 < as.length ↔ as[k].conflicts = true ∧ k + 1 < bound
  connections :
    (w.standing.ledger.acquired :: as.filterMap Attempt.connection?).Pairwise (· < ·)
  ok : ∀ x, (∃ n, r = .ok (x, n)) ↔ ∃ a ∈ as, a.outcome = .ok x
  runs : ∀ x n, r = .ok (x, n) → n = as.countP (·.opening.isOk)
  /-- A failure that is not due to another transaction is told as it is. -/
  failed : ∀ e, e.innermost.isConflict = false → (r = .error e ↔ ∃ a ∈ as, a.outcome = .error e)
  exhausted : ∀ e, r = .error (.retriesExhausted bound e) ∧ e.innermost.isConflict = true ↔
    as.length = bound ∧ (∀ a ∈ as, a.conflicts = true) ∧
      as.getLast?.map Attempt.outcome = some (.error e)
  closed : v.session.connection = none

theorem Tries.retried {left : Nat} {w v : Workspace} {as : List (Attempt α)} {a : Attempt α}
    {r : Except Error (α × Nat)} {ok : String → Prop} (plays : Plays ok body)
    (h : Tries o body left w as v) (last : as.getLast? = some a)
    (result : r = a.verdict as.length (as.countP (·.opening.isOk))) :
    Retried o body (left + 1) w as r v := by
  have here : a ∈ as := List.mem_of_getLast? last
  have later := h.after_last last
  have closed : v.session.connection = none := by
    have session : v.session = a.after.session := congrArg Standing.session later.standing_eq
    rw [session]
    exact (h.isOf a here).closed
  refine ⟨h.isOf, h.before_head, h.linked, ⟨a, last, later⟩, h.length_le, ?_, h.connections plays,
    ?_, ?_, ?_, ?_, closed⟩
  · intro k lt
    simpa using h.next k lt
  · intro x
    constructor
    · rintro ⟨n, fine⟩
      exact ⟨a, here, (Attempt.verdict_eq_ok.1 (result.symm.trans fine)).1⟩
    · rintro ⟨b, mem, outcome⟩
      obtain rfl := h.eq_last mem (Attempt.conflicts_of_ok outcome) last
      exact ⟨_, result.trans (Attempt.verdict_eq_ok.2 ⟨outcome, rfl⟩)⟩
  · intro x n fine
    exact (Attempt.verdict_eq_ok.1 (result.symm.trans fine)).2
  · intro e other
    rw [Error.isConflict_innermost] at other
    rw [result, Attempt.verdict_eq_error other]
    constructor
    · exact fun outcome => ⟨a, here, outcome⟩
    · rintro ⟨b, mem, outcome⟩
      obtain rfl := h.eq_last mem ((Attempt.conflicts_of_error outcome).trans other) last
      exact outcome
  · intro e
    rw [Error.isConflict_innermost]
    constructor
    · rintro ⟨exhausted, met⟩
      obtain ⟨outcome, length⟩ := (Attempt.verdict_eq_exhausted met).1 (result.symm.trans exhausted)
      have conflicts := (Attempt.conflicts_of_error outcome).trans met
      exact ⟨length, (h.all_conflict last conflicts).2, by rw [last, Option.map_some, outcome]⟩
    · rintro ⟨length, all, outcome⟩
      have outcome : a.outcome = .error e := by simpa [last] using outcome
      have met := (Attempt.conflicts_of_error outcome).symm.trans (all a here)
      exact ⟨result.trans ((Attempt.verdict_eq_exhausted met).2 ⟨outcome, length⟩), met⟩

/-- Work in a transaction that is tried again is tried as its settings allow, and the result of the
whole is that of the attempts. Without a limit of time, it comes to an end. -/
theorem retry_retried {ok : String → Prop} (o : Sql.TransactionOptions) {body : Work α}
    (plays : Plays ok body) {w : Workspace} (inactive : w.session.isActive = false) :
    (w.deadlines = [] → ∃ r v, retry o body w = (.ofExcept r, v)) ∧
    ∀ r v, retry o body w = (.ofExcept r, v) →
      ∃ as, Retried o body (max 1 w.database.config.maxAttempts) w as r v := by
  refine ⟨fun free => (plays_retry o plays).exists_run free, ?_⟩
  intro r v run
  have bound : max 1 w.database.config.maxAttempts = w.database.config.maxAttempts - 1 + 1 := by
    omega
  have run : attempts o body 1 0 (w.database.config.maxAttempts - 1) w = (.ofExcept r, v) := run
  obtain ⟨as, a, tries, last, result⟩ := tries_of_attempts inactive run
  have some : 0 < as.length := List.length_pos_of_ne_nil tries.ne_nil
  rw [Nat.zero_add, Nat.add_sub_cancel' some] at result
  rw [bound]
  exact ⟨as, tries.retried plays last result⟩

/-- The text is answered by a conflict once, and then no more. -/
def conflictOnce (text : String) : Rule :=
  ⟨text, .failure (.serializationConflict "could not serialize access"), some 1⟩

/-- The first transaction cannot be begun, and the next one cannot be committed. -/
def conflicting : Workspace where
  database := { config := { maxAttempts := 3 }, server := {
    rules := [conflictOnce "BEGIN", conflictOnce commitText] } }

/-- The third attempt succeeds, and only two have run the work. -/
theorem retry_retried_conflicting :
    let deletion := Action.perform (.batch "DELETE FROM t")
    let v := (retry {} deletion conflicting).2
    Plays (fun _ => True) deletion ∧ conflicting.session.isActive = false ∧
      retry {} deletion conflicting = (.done (.nothing, 2), v) ∧
      ∃ as, Retried {} deletion 3 conflicting as (.ok (.nothing, 2)) v ∧
        as.countP (·.opening.isOk) = 2 := by
  intro deletion v
  have plays : Plays (fun _ => True) deletion := Command.plays_action fun _ _ => trivial
  have inactive : conflicting.session.isActive = false := rfl
  have third : (attempts {} deletion 1 0 2 conflicting).1 = .done (.nothing, 2) := by
    simp only [attempts]
    rfl
  have run : retry {} deletion conflicting = (.ofExcept (.ok (.nothing, 2)), v) :=
    Prod.ext third rfl
  obtain ⟨as, retried⟩ := (retry_retried {} plays inactive).2 _ v run
  exact ⟨plays, inactive, run, as, retried, (retried.runs _ _ rfl).symm⟩

end Session

end DataMapper
