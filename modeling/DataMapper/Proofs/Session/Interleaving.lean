import DataMapper.Proofs.Session.Books
import Mathlib.Data.List.Nodup

/-!
# Interleaved sessions

Sessions whose operations come to their ends, and whose raw text leaves transactions alone, share
the connections of a server without loss and without mixing their statements, in whatever order they
work. Work inside transactions may be interrupted between its operations.

## Main definitions

* `Event.IsPlain` — the steps of such sessions.
* `System.InOrder` — what these steps keep right.
-/

namespace DataMapper

/-- The raw text neither begins nor ends a transaction. -/
def Event.IsPlain (e : Event) : Prop := ∀ sql, e.rawText? = some sql → ¬ IsControl sql

/-- The statements that were sent on a connection in a turn. -/
def Turn.on (t : Turn) (c : Nat) : List SentStatement := t.sent.filter (·.connection == c)

/-- How many sessions hold the connection of an open transaction. -/
def System.holding (σ : System) : Nat :=
  σ.sessions.countP fun s => s.any (·.connection.isSome)

structure System.InOrder (σ : System) : Prop where
  server : Orderly ⟨{}, σ.ledger⟩
  sessions : ∀ (i : Nat) (s : Session), σ.sessions[i]? = some (some s) → Orderly ⟨s, σ.ledger⟩
  /-- Only a transaction takes more than the turn in which its connection was acquired. -/
  single : ∀ t ∈ σ.turns, ∀ c ∈ t.acquired,
    σ.ledger.on c = t.on c ∨ ∃ b rest, σ.ledger.on c = b :: rest ∧ IsBegin b.sql

namespace Accounts

variable {s t : Standing} {r : Receipt} (h : Accounts s t r)
include h

theorem on_eq (c : Nat) :
    t.ledger.on c = s.ledger.on c ++ r.sent.filter (·.connection == c) := by
  rw [Ledger.on, h.sent, List.filter_append]
  rfl

/-- Nothing is sent on connections that the session does not have in its hands. -/
theorem on_eq_of_not_mem {c : Nat} (hc : c ∉ s.session.held ++ r.acquired) :
    t.ledger.on c = s.ledger.on c := by
  rw [h.on_eq, List.filter_eq_nil_iff.2, List.append_nil]
  intro st hst same
  obtain rfl : st.connection = c := by simpa using same
  exact hc (h.on st hst)

theorem lt_of_mem_acquired {c : Nat} (hc : c ∈ r.acquired) : s.ledger.acquired < c := by
  have nodup : (List.range' 1 s.ledger.acquired ++ r.acquired).Nodup :=
    h.acquired ▸ List.nodup_range'
  have one : 1 ≤ c := by
    have member : c ∈ List.range' 1 t.ledger.acquired := h.acquired ▸ List.mem_append_right _ hc
    exact (List.mem_range'_1.1 member).1
  have apart := (List.nodup_append.1 nodup).2.2 c
  have old (le : c ≤ s.ledger.acquired) : c ∈ List.range' 1 s.ledger.acquired :=
    List.mem_range'_1.2 ⟨one, by omega⟩
  grind

end Accounts

namespace Books

variable {σ : System} (h : Books σ)
include h

theorem le_of_mem_acquired {t : Turn} (ht : t ∈ σ.turns) {c : Nat} (hc : c ∈ t.acquired) :
    c ≤ σ.ledger.acquired := by
  have member : c ∈ List.range' 1 σ.ledger.acquired :=
    h.acquired ▸ List.mem_flatMap.2 ⟨t, ht, hc⟩
  have := List.mem_range'_1.1 member
  omega

theorem le_of_mem_held {c : Nat} (hc : c ∈ σ.held) : c ≤ σ.ledger.acquired := by
  obtain ⟨lost, -, perm⟩ := h.connections
  have := List.mem_range'_1.1 (perm.subset (List.mem_append_right _ hc))
  omega

theorem nodup_held : σ.held.Nodup := by
  obtain ⟨lost, -, perm⟩ := h.connections
  exact (List.nodup_append.1 (perm.nodup_iff.2 List.nodup_range')).2.1

/-- No two sessions have the same connection in their hands. -/
theorem not_mem_held {i j : Nat} {s s' : Session} (ne : i ≠ j)
    (at_i : σ.sessions[i]? = some (some s)) (at_j : σ.sessions[j]? = some (some s')) {c : Nat}
    (hc : c ∈ s.held) : c ∉ s'.held := by
  obtain ⟨li, hi⟩ := List.getElem?_eq_some_iff.1 at_i
  obtain ⟨lj, hj⟩ := List.getElem?_eq_some_iff.1 at_j
  have apart := List.pairwise_iff_getElem.1 (List.nodup_flatMap.1 h.nodup_held).2
  intro hc'
  rcases Nat.lt_or_gt_of_ne ne with lt | lt
  · have disjoint : (System.heldBy σ.sessions[i]).Disjoint (System.heldBy σ.sessions[j]) :=
      apart i j li lj lt
    rw [hi, hj] at disjoint
    exact disjoint hc hc'
  · have disjoint : (System.heldBy σ.sessions[j]).Disjoint (System.heldBy σ.sessions[i]) :=
      apart j i lj li lt
    rw [hi, hj] at disjoint
    exact disjoint hc' hc

end Books

namespace System

theorem length_held (σ : System) : σ.held.length = σ.holding := by
  unfold held holding
  induction σ.sessions with
  | nil => rfl
  | cons s ss ih =>
    rw [List.flatMap_cons, List.length_append, ih, List.countP_cons]
    match s with
    | none | some ⟨none, _⟩ => simp [heldBy, Session.held]
    | some ⟨some c, _⟩ => simp [heldBy, Session.held, Nat.add_comm]

namespace InOrder

variable {σ σ' : System}

theorem turned (h : σ.InOrder) (books : Books σ) {t : Turn} {s : Session} {r : Receipt}
    (g : Turned σ t s r σ') (plain : ∀ sql, t.move.rawText? = some sql → ¬ IsControl sql)
    (whole : t.whole = true) : σ'.InOrder := by
  have effects : Effects (¬ IsControl ·) ⟨t.before, σ.ledger⟩ ⟨s, σ'.ledger⟩ := by
    have does := g.makes.does
    rw [if_pos whole] at does
    exact does.mono fun sql allowed => allowed.elim id (plain sql)
  have order : Orderly ⟨s, σ'.ledger⟩ := (h.sessions _ _ g.present).effects effects
  have before : Orderly ⟨t.before, σ.ledger⟩ := h.sessions _ _ g.present
  have fresh {c : Nat} (le : c ≤ σ.ledger.acquired) : c ∉ r.acquired := by
    intro hc
    have : σ.ledger.acquired < c := g.accounts.lt_of_mem_acquired hc
    omega
  refine ⟨⟨order.acquired, by simp [Session.held], order.shape⟩, ?_, ?_⟩
  · intro j s₂ at_j
    rcases g.session_cases at_j with ⟨rfl, rfl⟩ | ⟨ne, at_j⟩
    · exact order
    · have other : Orderly ⟨s₂, σ.ledger⟩ := h.sessions j s₂ at_j
      refine ⟨order.acquired, ?_, order.shape⟩
      intro c hc
      have apart : c ∉ t.before.held ++ r.acquired := by
        simp only [List.mem_append, not_or]
        exact ⟨books.not_mem_held ne at_j g.present hc, fresh (other.held_le hc)⟩
      rw [g.accounts.on_eq_of_not_mem apart]
      exact other.held c hc
  · intro t' ht' c hc
    rcases g.mem_turns.1 ht' with old | rfl
    · by_cases held : c ∈ t.before.held
      · obtain ⟨b, body, eq, begins, -⟩ := before.held c held
        refine .inr ⟨b, body ++ r.sent.filter (·.connection == c), ?_, begins⟩
        rw [g.accounts.on_eq c, eq, List.cons_append]
      · have apart : c ∉ t.before.held ++ r.acquired := by
          simp only [List.mem_append, not_or]
          exact ⟨held, fresh (books.le_of_mem_acquired old hc)⟩
        rw [g.accounts.on_eq_of_not_mem apart]
        exact h.single t' old c hc
    · refine .inl ?_
      have none : σ.ledger.on c = [] :=
        h.server.on_eq_nil (g.accounts.lt_of_mem_acquired (g.acquired ▸ hc))
      rw [g.accounts.on_eq c, none, Turn.on, g.sent]
      rfl

theorem stepped (h : σ.InOrder) (books : Books σ) {e : Event} (g : Stepped σ e σ')
    (plain : e.IsPlain) (whole : ∀ t ∈ σ'.turns, t.whole = true) : σ'.InOrder := by
  cases g with
  | idle => exact h
  | opened =>
    refine { h with sessions := ?_ }
    intro i s at_i
    rw [List.getElem?_append] at at_i
    split at at_i
    · exact h.sessions i s at_i
    · obtain rfl : s = {} := by grind
      exact h.server
  | turned g => exact h.turned books g plain (whole _ (g.mem_turns.2 (.inr rfl)))
  | @cancelled i s present =>
    refine { h with sessions := ?_ }
    intro j s₂ at_j
    rw [List.getElem?_set] at at_j
    split at at_j
    · obtain rfl : s₂ = { s with abandoned := true } := by grind
      have order := h.sessions i s present
      exact ⟨order.acquired, order.held, order.shape⟩
    · exact h.sessions j s₂ at_j
  | @meanwhile a =>
    have ledger := σ.ledger_meanwhile a
    exact ⟨ledger ▸ h.server, ledger ▸ h.sessions, ledger ▸ h.single⟩

theorem run (h : σ.InOrder) (books : Books σ) {es : List Event} (plain : ∀ e ∈ es, e.IsPlain)
    (whole : ∀ t ∈ (σ.run es).turns, t.whole = true) : (σ.run es).InOrder := by
  induction es generalizing σ with
  | nil => exact h
  | cons e es ih =>
    have stepped := σ.stepped_step e
    have order := h.stepped books stepped (plain e (by simp)) fun t ht =>
      whole t (mem_turns_run ht es)
    exact ih order (books.stepped stepped) (fun e' he' => plain e' (by simp [he'])) whole

theorem start (config : Config) (rules : List Rule) (store : TextStore)
    (records : List (String × Record)) : (System.start config rules store records).InOrder := by
  have nothing : Orderly ⟨{}, (System.start config rules store records).ledger⟩ := by
    constructor <;> simp [System.start, ledger, Server.ledger, Session.held, Ledger.on, IsPlain]
  exact ⟨nothing, by simp [System.start], by simp [System.start]⟩

end InOrder

/-- However sessions are interleaved, every connection is accounted for, its statements are those of
the session that acquired it, and they are those of one operation or of one transaction. -/
theorem connections_run (config : Config) (rules : List Rule) (store : TextStore)
    (records : List (String × Record)) {es : List Event} (plain : ∀ e ∈ es, e.IsPlain)
    (whole : ∀ t ∈ ((start config rules store records).run es).turns, t.whole = true) :
    let σ := (System.start config rules store records).run es
    σ.ledger.acquired = σ.ledger.released.length + σ.ledger.discarded.length + σ.holding ∧
      σ.turns.flatMap Turn.sent = σ.ledger.sent ∧
      σ.turns.flatMap Turn.acquired = List.range' 1 σ.ledger.acquired ∧
      (∀ t ∈ σ.turns, ∀ st ∈ t.sent, σ.Acquired t.session st.connection) ∧
      ∀ t ∈ σ.turns, ∀ c ∈ t.acquired,
        (σ.ledger.on c = t.on c ∧ IsPlain (t.on c)) ∨ IsTransaction (σ.ledger.on c) := by
  intro σ
  have books : Books σ := (Books.start config rules store records).run es
  have order : σ.InOrder := (InOrder.start config rules store records).run
    (Books.start config rules store records) plain whole
  refine ⟨?_, books.sent, books.acquired, books.owner, ?_⟩
  · obtain ⟨lost, none, perm⟩ := books.connections
    have length := perm.length_eq
    rw [none whole] at length
    simp only [List.length_append, List.length_nil, List.length_range', length_held] at length
    omega
  · intro t ht c hc
    rcases order.server.shape c with quiet | transaction
    · rcases order.single t ht c hc with same | ⟨b, rest, eq, begins⟩
      · exact .inl ⟨same, same ▸ quiet⟩
      · exact absurd begins (eq ▸ quiet : IsPlain (b :: rest)).not_isBegin
    · exact .inr transaction

/-- Two sessions, one of them inside a transaction that is interrupted. -/
def twoSessions : List Event :=
  [.opened, .opened, .turn 0 (.act [] (.begin {})), .turn 1 (.act [] (.batch "SELECT 1")),
    .turn 0 (.act [] (.executeSql "DELETE FROM t" [])), .cancelled 0,
    .turn 1 (.act [] (.begin {})), .turn 0 (.act [] (.batch "SELECT 2"))]

theorem connections_run_twoSessions :
    let σ := (System.start {} [] .empty []).run twoSessions
    (∀ e ∈ twoSessions, e.IsPlain) ∧ σ.ledger.acquired = 4 ∧ σ.ledger.released = [4, 1, 2] ∧
      σ.holding = 1 ∧ 4 = σ.ledger.released.length + σ.ledger.discarded.length + σ.holding ∧
      (σ.ledger.on 1).map SentStatement.sql =
        ["BEGIN ISOLATION LEVEL SERIALIZABLE", "DELETE FROM t", "ROLLBACK"] ∧
      IsTransaction (σ.ledger.on 1) := by
  intro σ
  have select : ∀ sql ∈ ["SELECT 1", "SELECT 2"], ¬ IsControl sql := fun sql hs =>
    not_isControl_of_lead "SELECT " (by decide)
      ((by decide : ∀ sql ∈ ["SELECT 1", "SELECT 2"], "SELECT ".toList <+: sql.toList) sql hs)
  have delete : ¬ IsControl "DELETE FROM t" :=
    not_isControl_of_lead "DELETE FROM " (by decide) (by decide)
  have plain : ∀ e ∈ twoSessions, e.IsPlain := by
    simp only [twoSessions, List.forall_mem_cons]
    refine ⟨nofun, nofun, nofun, ?_, ?_, nofun, nofun, ?_, by simp⟩
    · rintro _ ⟨⟩
      exact select _ (by simp)
    · rintro _ ⟨⟩
      exact delete
    · rintro _ ⟨⟩
      exact select _ (by simp)
  obtain ⟨total, -, -, -, shapes⟩ := connections_run {} [] .empty [] plain (by decide)
  refine ⟨plain, by decide, by decide, by decide, total, by decide, ?_⟩
  have begun : ∃ t ∈ σ.turns, 1 ∈ t.acquired ∧ (t.on 1).length = 1 := by decide
  obtain ⟨t, ht, taken, one⟩ := begun
  refine (shapes t ht 1 taken).resolve_left ?_
  rintro ⟨same, -⟩
  have three : (σ.ledger.on 1).length = 3 := by decide
  rw [same, one] at three
  cases three

end System

end DataMapper
