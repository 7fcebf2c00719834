import DataMapper.Proofs.Session.Actions
import Mathlib.Data.List.Perm.Basic

/-!
# Accounts of connections

Every connection that comes into the hands of a session leaves them in one way: it is released,
discarded, held for the open transaction, or lost in an interruption. Receipts say which, and they
add up over whatever a session does.

## Main definitions

* `Receipt` — what comes of statements and connections.
* `Accounts` — a receipt accounts for the way from one standing to another.
-/

namespace DataMapper

open Work

/-- The connections that a session has in its hands. -/
def Session.held (s : Session) : List Nat := s.connection.toList

theorem Session.mem_held {s : Session} {c : Nat} : c ∈ s.held ↔ s.connection = some c :=
  Option.mem_toList

/-- What comes of statements and connections; the latest connection that is put away comes first. -/
structure Receipt where
  sent : List SentStatement := []
  acquired : List Nat := []
  released : List Nat := []
  discarded : List Nat := []
  lost : List Nat := []

/-- One receipt behind another. -/
def Receipt.append (a b : Receipt) : Receipt where
  sent := a.sent ++ b.sent
  acquired := a.acquired ++ b.acquired
  released := b.released ++ a.released
  discarded := b.discarded ++ a.discarded
  lost := b.lost ++ a.lost

/-- The receipt accounts for the way from one standing to another. -/
structure Accounts (s t : Standing) (r : Receipt) : Prop where
  sent : t.ledger.sent = s.ledger.sent ++ r.sent
  acquired : List.range' 1 t.ledger.acquired = List.range' 1 s.ledger.acquired ++ r.acquired
  released : t.ledger.released = r.released ++ s.ledger.released
  discarded : t.ledger.discarded = r.discarded ++ s.ledger.discarded
  /-- What comes into the hands of the session leaves them in one way, or stays there. -/
  connections : (r.released ++ r.discarded ++ r.lost ++ t.session.held).Perm
    (s.session.held ++ r.acquired)
  on : ∀ st ∈ r.sent, st.connection ∈ s.session.held ++ r.acquired
  begun : ∀ c ∈ t.session.held, c ∈ s.session.held ∨
    ∃ st ∈ r.sent, st.connection = c ∧ IsBegin st.sql ∧ st.failed = false

namespace Accounts

variable {s t u : Standing} {r r' : Receipt}

theorem refl (s : Standing) : Accounts s s {} where
  sent := by simp
  acquired := by simp
  released := rfl
  discarded := rfl
  connections := by simp
  on := by simp
  begun _ hc := .inl hc

theorem acquired_le (h : Accounts s t r) : s.ledger.acquired ≤ t.ledger.acquired := by
  have := congrArg List.length h.acquired
  simp only [List.length_range', List.length_append] at this
  omega

theorem held_subset (h : Accounts s t r) {c : Nat} (hc : c ∈ t.session.held) :
    c ∈ s.session.held ++ r.acquired :=
  h.connections.subset (List.mem_append_right _ hc)

theorem trans (h : Accounts s t r) (g : Accounts t u r') : Accounts s u (r.append r') := by
  have sooner {c : Nat} (hc : c ∈ s.session.held ++ r.acquired) :
      c ∈ s.session.held ++ (r.acquired ++ r'.acquired) := by
    rw [← List.append_assoc]
    exact List.mem_append_left _ hc
  have later {c : Nat} (hc : c ∈ t.session.held ++ r'.acquired) :
      c ∈ s.session.held ++ (r.acquired ++ r'.acquired) := by
    rcases List.mem_append.1 hc with before | fresh
    · exact sooner (h.held_subset before)
    · exact List.mem_append_right _ (List.mem_append_right _ fresh)
  constructor
  · rw [g.sent, h.sent, List.append_assoc]
    rfl
  · rw [g.acquired, h.acquired, List.append_assoc]
    rfl
  · rw [g.released, h.released, ← List.append_assoc]
    rfl
  · rw [g.discarded, h.discarded, ← List.append_assoc]
    rfl
  · refine List.perm_iff_count.2 fun c => ?_
    have first := h.connections.count_eq c
    have second := g.connections.count_eq c
    simp only [Receipt.append, List.count_append] at *
    omega
  · intro st hst
    rcases List.mem_append.1 hst with first | second
    · exact sooner (h.on st first)
    · exact later (g.on st second)
  · intro c hc
    rcases g.begun c hc with before | ⟨st, hst, begins⟩
    · rcases h.begun c before with before | ⟨st, hst, begins⟩
      · exact .inl before
      · exact .inr ⟨st, List.mem_append_left _ hst, begins⟩
    · exact .inr ⟨st, List.mem_append_right _ hst, begins⟩

end Accounts

theorem range'_one_succ (n : Nat) : List.range' 1 (n + 1) = List.range' 1 n ++ [n + 1] := by
  simp [List.range'_concat, Nat.add_comm]

section

variable {c : Nat} {b : Bool} {l : Ledger} {st : SentStatement} {sts : List SentStatement}

/-- A rollback, behind which the connection is put away. -/
theorem accounts_putAway (on : st.connection = c) : Accounts ⟨⟨some c, b⟩, l⟩ ⟨{}, l.putAway st⟩
    (if st.failed then { sent := [st], discarded := [c] }
      else { sent := [st], released := [c] }) := by
  subst on
  unfold Ledger.putAway
  split <;> constructor <;> simp [Session.held, Ledger.send, Ledger.discard, Ledger.release]

theorem Effect.accounts {ok : String → Prop} {s t : Standing} (h : Effect ok s t) :
    ∃ r, Accounts s t r ∧ r.lost = [] := by
  cases h with
  | @use c l sts on =>
    refine ⟨{ sent := sts }, ?_, rfl⟩
    constructor <;> simp_all [Session.held, Ledger.send]
  | @borrow l sts on =>
    refine ⟨{ sent := sts, acquired := [l.acquired + 1], released := [l.acquired + 1] }, ?_, rfl⟩
    constructor <;> simp_all [Session.held, Ledger.send, Ledger.acquire, Ledger.release,
      range'_one_succ]
  | @start l st on text fine =>
    refine ⟨{ sent := [st], acquired := [l.acquired + 1] }, ?_, rfl⟩
    constructor <;> simp_all [Session.held, Ledger.send, Ledger.acquire, range'_one_succ]
  | @startFailed l st on text failed =>
    refine ⟨{ sent := [st], acquired := [l.acquired + 1], released := [l.acquired + 1] }, ?_, rfl⟩
    constructor <;> simp_all [Session.held, Ledger.send, Ledger.acquire, Ledger.release,
      range'_one_succ]
  | @finish c l st on text =>
    refine ⟨{ sent := [st], released := [c] }, ?_, rfl⟩
    constructor <;> simp_all [Session.held, Ledger.send, Ledger.release]
  | recover on text =>
    refine ⟨_, accounts_putAway on, ?_⟩
    split <;> rfl
  | @discard c b l =>
    refine ⟨{ discarded := [c] }, ?_, rfl⟩
    constructor <;> simp [Session.held, Ledger.discard]
  | forget =>
    refine ⟨{}, ?_, rfl⟩
    constructor <;> simp [Session.held]

theorem Effects.accounts {ok : String → Prop} {s t : Standing} (h : Effects ok s t) :
    ∃ r, Accounts s t r ∧ r.lost = [] := by
  induction h with
  | refl => exact ⟨{}, .refl s, rfl⟩
  | tail _ effect ih =>
    obtain ⟨r, first, none⟩ := ih
    obtain ⟨r', second, none'⟩ := effect.accounts
    exact ⟨_, first.trans second, by rw [Receipt.append, none, none']; rfl⟩

theorem Cut.accounts {ok : String → Prop} {s t : Standing} (h : Cut ok s t) :
    ∃ r, Accounts s t r := by
  cases h with
  | rest => exact ⟨{}, .refl s⟩
  | @borrow l sts on =>
    refine ⟨{ sent := sts, acquired := [l.acquired + 1], lost := [l.acquired + 1] }, ?_⟩
    constructor <;> simp_all [Session.held, Ledger.send, Ledger.acquire, range'_one_succ]
  | @start l st on text =>
    refine ⟨{ sent := [st], acquired := [l.acquired + 1], lost := [l.acquired + 1] }, ?_⟩
    constructor <;> simp_all [Session.held, Ledger.send, Ledger.acquire, range'_one_succ]
  | @finish c b l st on text =>
    refine ⟨{ sent := [st], lost := [c] }, ?_⟩
    constructor <;> simp_all [Session.held, Ledger.send]

theorem Broken.accounts {ok : String → Prop} {s t : Standing} (h : Broken ok s t) :
    ∃ r, Accounts s t r := by
  obtain ⟨m, effects, cut⟩ := h
  obtain ⟨r, first, -⟩ := effects.accounts
  obtain ⟨r', second⟩ := cut.accounts
  exact ⟨_, first.trans second⟩

end

end DataMapper
