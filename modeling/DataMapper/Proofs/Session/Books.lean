import DataMapper.Proofs.Session.Turns

/-!
# The books of a system

On every run the connections that were acquired are accounted for: each of them has been released or
discarded, is in the hands of one session, or was lost in an interruption. Whatever was sent, was
sent by the session that had acquired the connection.

## Main definitions

* `Books` — what a run keeps right.
-/

namespace DataMapper

/-- A transaction has been begun on the connection. -/
def Ledger.HasBegun (l : Ledger) (c : Nat) : Prop :=
  ∃ b ∈ l.sent, b.connection = c ∧ IsBegin b.sql ∧ b.failed = false

/-- A session has acquired the connection in one of its turns. -/
def System.Acquired (σ : System) (i c : Nat) : Prop :=
  ∃ t ∈ σ.turns, t.session = i ∧ c ∈ t.acquired

structure Books (σ : System) : Prop where
  sent : σ.turns.flatMap Turn.sent = σ.ledger.sent
  acquired : σ.turns.flatMap Turn.acquired = List.range' 1 σ.ledger.acquired
  /-- Only interruptions lose connections. -/
  connections : ∃ lost, ((∀ t ∈ σ.turns, t.whole = true) → lost = []) ∧
    (σ.ledger.released ++ σ.ledger.discarded ++ lost ++ σ.held).Perm
      (List.range' 1 σ.ledger.acquired)
  owner : ∀ t ∈ σ.turns, ∀ st ∈ t.sent, σ.Acquired t.session st.connection
  holder : ∀ i s, σ.sessions[i]? = some (some s) → ∀ c ∈ s.held,
    σ.Acquired i c ∧ σ.ledger.HasBegun c
  begun : ∀ t ∈ σ.turns, ∀ c ∈ t.before.held, σ.ledger.HasBegun c

theorem count_flatMap_set {α : Type} (f : α → List Nat) {l : List α} {i : Nat} {a b : α}
    (h : l[i]? = some a) (c : Nat) :
    ((l.set i b).flatMap f).count c + (f a).count c =
      (l.flatMap f).count c + (f b).count c := by
  induction l generalizing i with
  | nil => cases h
  | cons x xs ih =>
    cases i with
    | zero =>
      obtain rfl : x = a := by simpa using h
      simp only [List.set_cons_zero, List.flatMap_cons, List.count_append]
      omega
    | succ i =>
      have := ih (by simpa using h)
      simp only [List.set_cons_succ, List.flatMap_cons, List.count_append]
      omega

namespace System

variable (σ : System)

theorem held_opened : ({ σ with sessions := σ.sessions ++ [some {}] } : System).held = σ.held := by
  simp [held, heldBy, Session.held]

theorem count_held_cancelled {i : Nat} {s : Session} (present : σ.sessions[i]? = some (some s))
    (c : Nat) :
    ({ σ with sessions := σ.sessions.set i (some { s with abandoned := true }) } :
      System).held.count c = σ.held.count c := by
  have count := count_flatMap_set heldBy (b := some { s with abandoned := true }) present c
  simp only [held, heldBy, Session.held] at *
  omega

end System

theorem Accounts.hasBegun {s t : Standing} {r : Receipt} (h : Accounts s t r) {c : Nat}
    (begun : s.ledger.HasBegun c) : t.ledger.HasBegun c := by
  obtain ⟨b, hb, begins⟩ := begun
  exact ⟨b, h.sent ▸ List.mem_append_left _ hb, begins⟩

namespace Turned

variable {σ σ' : System} {t : Turn} {s : Session} {r : Receipt} (h : Turned σ t s r σ')
include h

theorem acquired_mono {i c : Nat} (acquired : σ.Acquired i c) : σ'.Acquired i c := by
  obtain ⟨t', ht', mine⟩ := acquired
  exact ⟨t', h.turns ▸ List.mem_append_left _ ht', mine⟩

theorem mem_turns {t' : Turn} : t' ∈ σ'.turns ↔ t' ∈ σ.turns ∨ t' = t := by
  rw [h.turns, List.mem_append, List.mem_singleton]

/-- A session that goes away has nothing in its hands. -/
theorem heldBy_eq : System.heldBy (if t.move.leaves then none else some s) = s.held := by
  split
  · next leaves =>
    have gone : s = {} := h.makes.gone leaves
    rw [gone]
    rfl
  · rfl

theorem count_held (c : Nat) :
    σ'.held.count c + t.before.held.count c = σ.held.count c + s.held.count c := by
  have count := count_flatMap_set System.heldBy
    (b := if t.move.leaves then none else some s) h.present c
  rw [h.heldBy_eq] at count
  rw [System.held, h.sessions]
  exact count

theorem session_cases {j : Nat} {s₂ : Session} (at_j : σ'.sessions[j]? = some (some s₂)) :
    (j = t.session ∧ s₂ = s) ∨ (j ≠ t.session ∧ σ.sessions[j]? = some (some s₂)) := by
  rw [h.sessions, List.getElem?_set] at at_j
  grind

end Turned

namespace Books

variable {σ σ' : System}

theorem turned (h : Books σ) {t : Turn} {s : Session} {r : Receipt} (g : Turned σ t s r σ') :
    Books σ' := by
  have mine {c : Nat} (hc : c ∈ t.before.held ++ r.acquired) : σ'.Acquired t.session c := by
    rcases List.mem_append.1 hc with before | fresh
    · exact g.acquired_mono (h.holder _ _ g.present c before).1
    · exact ⟨t, g.mem_turns.2 (.inr rfl), rfl, g.acquired ▸ fresh⟩
  constructor
  · rw [g.turns, List.flatMap_append, h.sent, g.accounts.sent, ← g.sent]
    simp
  · rw [g.turns, List.flatMap_append, h.acquired, g.accounts.acquired, ← g.acquired]
    simp
  · obtain ⟨lost, none, perm⟩ := h.connections
    refine ⟨r.lost ++ lost, ?_, ?_⟩
    · intro whole
      rw [none fun t' ht' => whole t' (g.mem_turns.2 (.inl ht')),
        g.whole (whole t (g.mem_turns.2 (.inr rfl)))]
      rfl
    · refine List.perm_iff_count.2 fun c => ?_
      have before := perm.count_eq c
      have turn := g.accounts.connections.count_eq c
      have held := g.count_held c
      rw [g.accounts.acquired, g.accounts.released, g.accounts.discarded]
      simp only [List.count_append] at *
      omega
  · intro t' ht' st hst
    rcases g.mem_turns.1 ht' with old | rfl
    · exact g.acquired_mono (h.owner t' old st hst)
    · exact mine (g.accounts.on st (g.sent ▸ hst))
  · intro j s₂ at_j c hc
    rcases g.session_cases at_j with ⟨rfl, rfl⟩ | ⟨-, at_j⟩
    · refine ⟨mine (g.accounts.held_subset hc), ?_⟩
      rcases g.accounts.begun c hc with before | ⟨b, hb, begins⟩
      · exact g.accounts.hasBegun (h.holder _ _ g.present c before).2
      · exact ⟨b, g.accounts.sent ▸ List.mem_append_right _ hb, begins⟩
    · obtain ⟨acquired, begun⟩ := h.holder j s₂ at_j c hc
      exact ⟨g.acquired_mono acquired, g.accounts.hasBegun begun⟩
  · intro t' ht' c hc
    rcases g.mem_turns.1 ht' with old | rfl
    · exact g.accounts.hasBegun (h.begun t' old c hc)
    · exact g.accounts.hasBegun (h.holder _ _ g.present c hc).2

theorem stepped (h : Books σ) {e : Event} (g : Stepped σ e σ') : Books σ' := by
  cases g with
  | idle => exact h
  | opened =>
    refine { h with connections := ?_, holder := ?_ }
    · rw [System.held_opened]
      exact h.connections
    · intro i s at_i c hc
      rw [List.getElem?_append] at at_i
      split at at_i
      · exact h.holder i s at_i c hc
      · obtain rfl : s = {} := by grind
        cases hc
  | turned g => exact h.turned g
  | @cancelled i s present =>
    refine { h with connections := ?_, holder := ?_ }
    · obtain ⟨lost, none, perm⟩ := h.connections
      refine ⟨lost, none, List.perm_iff_count.2 fun c => ?_⟩
      have before := perm.count_eq c
      rw [List.count_append, σ.count_held_cancelled present c, ← List.count_append]
      exact before
    · intro j s₂ at_j c hc
      rw [List.getElem?_set] at at_j
      split at at_j
      · next same =>
        subst same
        obtain rfl : s₂ = { s with abandoned := true } := by grind
        exact h.holder i s present c hc
      · exact h.holder j s₂ at_j c hc
  | @meanwhile a =>
    have ledger := σ.ledger_meanwhile a
    refine ⟨?_, ?_, ?_, h.owner, ?_, ?_⟩
    · exact ledger ▸ h.sent
    · exact ledger ▸ h.acquired
    · exact ledger ▸ h.connections
    · exact ledger ▸ h.holder
    · exact ledger ▸ h.begun

/-- A connection is released or discarded or in the hands of a session, once. -/
theorem count_le_one (h : Books σ) (c : Nat) :
    σ.ledger.released.count c + σ.ledger.discarded.count c + σ.held.count c ≤ 1 := by
  obtain ⟨lost, -, perm⟩ := h.connections
  have count := perm.count_eq c
  have one := List.nodup_iff_count.1 (List.nodup_range' (s := 1) (n := σ.ledger.acquired)) c
  simp only [List.count_append] at count
  omega

theorem start (config : Config) (rules : List Rule) (store : TextStore)
    (records : List (String × Record)) (draws : List Nat := []) :
    Books (System.start config rules store records draws) := by
  constructor <;> simp [System.start, System.ledger, Server.ledger, System.held]

theorem run (h : Books σ) (es : List Event) : Books (σ.run es) := by
  induction es generalizing σ with
  | nil => exact h
  | cons e es ih => exact ih (h.stepped (σ.stepped_step e))

end Books

end DataMapper
