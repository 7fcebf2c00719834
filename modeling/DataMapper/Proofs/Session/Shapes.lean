import DataMapper.Proofs.Session.Accounts

/-!
# The statements of one connection

Where raw text does not begin or end transactions, the statements that have been sent on a
connection have nothing to do with transactions at all, or they are those of one transaction.

## Main definitions

* `IsPlain`, `IsTransaction` — the two shapes.
* `IsOpen` — the shape while the transaction has not been ended.
* `Orderly` — all connections are in shape.
-/

namespace DataMapper

open Work

/-- No statement begins or ends a transaction. -/
def IsPlain (sts : List SentStatement) : Prop := ∀ st ∈ sts, ¬ IsControl st.sql

/-- A transaction has been begun and not been ended. -/
def IsOpen (sts : List SentStatement) : Prop :=
  ∃ b body, sts = b :: body ∧ IsBegin b.sql ∧ b.failed = false ∧ IsPlain body

/-- One statement begins a transaction. If it succeeds, others follow, and then at most one that
ends the transaction; nothing comes behind that. -/
def IsTransaction (sts : List SentStatement) : Prop :=
  ∃ b body ends, sts = b :: (body ++ ends) ∧ IsBegin b.sql ∧ IsPlain body ∧ ends.length ≤ 1 ∧
    (∀ st ∈ ends, st.sql = Session.commitText ∨ st.sql = Session.rollbackText) ∧
    (b.failed = true → body = [] ∧ ends = [])

/-- The statements on a connection. -/
def Ledger.on (l : Ledger) (c : Nat) : List SentStatement := l.sent.filter (·.connection == c)

section

variable {sts more : List SentStatement} {st : SentStatement}

theorem IsOpen.isTransaction (h : IsOpen sts) : IsTransaction sts := by
  obtain ⟨b, body, rfl, text, fine, plain⟩ := h
  refine ⟨b, body, [], by simp, text, plain, by simp, by simp, ?_⟩
  intro failed
  simp [fine] at failed

theorem IsOpen.append (h : IsOpen sts) (plain : IsPlain more) : IsOpen (sts ++ more) := by
  obtain ⟨b, body, rfl, text, fine, first⟩ := h
  refine ⟨b, body ++ more, rfl, text, fine, ?_⟩
  intro st hst
  exact (List.mem_append.1 hst).elim (first st) (plain st)

theorem IsOpen.finish (h : IsOpen sts)
    (text : st.sql = Session.commitText ∨ st.sql = Session.rollbackText) :
    IsTransaction (sts ++ [st]) := by
  obtain ⟨b, body, rfl, begins, fine, plain⟩ := h
  refine ⟨b, body, [st], rfl, begins, plain, by simp, by simpa using text, ?_⟩
  intro failed
  simp [fine] at failed

theorem isOpen_begin (text : IsBegin st.sql) (fine : st.failed = false) : IsOpen [st] :=
  ⟨st, [], rfl, text, fine, by simp [IsPlain]⟩

theorem isTransaction_begin (text : IsBegin st.sql) : IsTransaction [st] :=
  ⟨st, [], [], rfl, text, by simp [IsPlain], by simp, by simp, by simp⟩

/-- A transaction is not taken for anything else. -/
theorem IsPlain.not_isBegin {b : SentStatement} (h : IsPlain (b :: sts)) : ¬ IsBegin b.sql :=
  fun begins => h b (by simp) (.inl begins)

end

namespace Ledger

variable {l : Ledger} {c d : Nat} {sts : List SentStatement}

theorem on_send (on : ∀ st ∈ sts, st.connection = c) : (l.send sts).on c = l.on c ++ sts := by
  have all : sts.filter (·.connection == c) = sts := by
    refine List.filter_eq_self.2 fun st hst => ?_
    simp [on st hst]
  rw [Ledger.on, send, List.filter_append, all]
  rfl

theorem on_send_of_ne (on : ∀ st ∈ sts, st.connection = c) (ne : d ≠ c) :
    (l.send sts).on d = l.on d := by
  have none : sts.filter (·.connection == d) = [] := by
    refine List.filter_eq_nil_iff.2 fun st hst => ?_
    simp [on st hst, ne.symm]
  rw [Ledger.on, send, List.filter_append, none, List.append_nil]
  rfl

end Ledger

/-- All connections are in shape, and that of the session is inside a transaction. -/
structure Orderly (s : Standing) : Prop where
  acquired : ∀ st ∈ s.ledger.sent, st.connection ≤ s.ledger.acquired
  held : ∀ c ∈ s.session.held, IsOpen (s.ledger.on c)
  shape : ∀ c, IsPlain (s.ledger.on c) ∨ IsTransaction (s.ledger.on c)

namespace Orderly

variable {s t : Standing}

/-- Nothing has been sent on a connection that has not been acquired. -/
theorem on_eq_nil (h : Orderly s) {c : Nat} (fresh : s.ledger.acquired < c) :
    s.ledger.on c = [] := by
  refine List.filter_eq_nil_iff.2 fun st hst => ?_
  have := h.acquired st hst
  simp only [beq_iff_eq]
  omega

theorem held_le (h : Orderly s) {c : Nat} (hc : c ∈ s.session.held) : c ≤ s.ledger.acquired := by
  obtain ⟨b, body, eq, -⟩ := h.held c hc
  have member : b ∈ s.ledger.on c := by simp [eq]
  obtain ⟨sent, on⟩ := List.mem_filter.1 member
  have := h.acquired b sent
  simp only [beq_iff_eq] at on
  omega

/-- Statements have been sent on one connection, which has kept its shape. -/
theorem of_send (h : Orderly s) {c : Nat} {sts : List SentStatement}
    (on : ∀ st ∈ sts, st.connection = c) (born : c ≤ t.ledger.acquired)
    (more : s.ledger.acquired ≤ t.ledger.acquired) (sent : t.ledger.sent = s.ledger.sent ++ sts)
    (held : ∀ d ∈ t.session.held, d = c ∧ IsOpen (s.ledger.on c ++ sts))
    (shape : IsPlain (s.ledger.on c ++ sts) ∨ IsTransaction (s.ledger.on c ++ sts)) :
    Orderly t := by
  have ledger (d : Nat) : t.ledger.on d = (s.ledger.send sts).on d := by
    rw [Ledger.on, sent]
    rfl
  refine ⟨?_, ?_, ?_⟩
  · intro st hst
    rw [sent] at hst
    rcases List.mem_append.1 hst with before | now
    · exact Nat.le_trans (h.acquired st before) more
    · exact on st now ▸ born
  · intro d hd
    obtain ⟨rfl, opened⟩ := held d hd
    rw [ledger, Ledger.on_send on]
    exact opened
  · intro d
    rw [ledger]
    by_cases same : d = c
    · rw [same, Ledger.on_send on]
      exact shape
    · rw [Ledger.on_send_of_ne on same]
      exact h.shape d

theorem putAway {c : Nat} {b : Bool} {l : Ledger} {st : SentStatement}
    (h : Orderly ⟨⟨some c, b⟩, l⟩) (on : st.connection = c) (text : st.sql = Session.rollbackText) :
    Orderly ⟨{}, l.putAway st⟩ := by
  have mine : c ∈ (⟨some c, b⟩ : Session).held := by simp [Session.held]
  refine h.of_send (c := c) (by simpa using on) ?_ ?_ ?_ ?_
    (.inr ((h.held c mine).finish (.inr text)))
  · have := h.held_le mine
    unfold Ledger.putAway
    split <;> exact this
  · unfold Ledger.putAway
    split <;> exact Nat.le_refl _
  · unfold Ledger.putAway
    split <;> rfl
  · simp [Session.held]

/-- Where raw text does not begin or end transactions, connections stay in shape. -/
theorem effect (h : Orderly s) (e : Effect (¬ IsControl ·) s t) : Orderly t := by
  cases e with
  | @use c l sts on =>
    have mine : c ∈ (⟨some c, false⟩ : Session).held := by simp [Session.held]
    have opened := (h.held c mine).append fun st hst => (on st hst).2
    refine h.of_send (fun st hst => (on st hst).1) (h.held_le mine) (Nat.le_refl _) rfl ?_
      (.inr opened.isTransaction)
    intro d hd
    obtain rfl : d = c := by simpa [Session.held] using hd
    exact ⟨rfl, opened⟩
  | @borrow l sts on =>
    refine h.of_send (fun st hst => (on st hst).1) (Nat.le_refl _) (Nat.le_succ _) rfl
      (by simp [Session.held])
      (.inl ?_)
    rw [h.on_eq_nil (Nat.lt_succ_self _)]
    exact fun st hst => (on st hst).2
  | @start l st on text fine =>
    have opened : IsOpen (l.on (l.acquired + 1) ++ [st]) := by
      rw [h.on_eq_nil (Nat.lt_succ_self _)]
      exact isOpen_begin text fine
    refine h.of_send (c := l.acquired + 1) (by simpa using on) (Nat.le_refl _) (Nat.le_succ _)
      rfl ?_
      (.inr opened.isTransaction)
    intro d hd
    obtain rfl : d = l.acquired + 1 := by simpa [Session.held] using hd
    exact ⟨rfl, opened⟩
  | @startFailed l st on text failed =>
    refine h.of_send (c := l.acquired + 1) (by simpa using on) (Nat.le_refl _) (Nat.le_succ _) rfl
      (by simp [Session.held]) (.inr ?_)
    rw [h.on_eq_nil (Nat.lt_succ_self l.acquired)]
    exact isTransaction_begin text
  | @finish c l st on text =>
    have mine : c ∈ (⟨some c, false⟩ : Session).held := by simp [Session.held]
    exact h.of_send (by simpa using on) (h.held_le mine) (Nat.le_refl _) rfl
      (by simp [Session.held])
      (.inr ((h.held c mine).finish text))
  | recover on text => exact h.putAway on text
  | discard => exact ⟨h.acquired, by simp [Session.held], h.shape⟩
  | forget => exact ⟨h.acquired, by simp [Session.held], h.shape⟩

theorem effects (h : Orderly s) (e : Effects (¬ IsControl ·) s t) : Orderly t := by
  induction e with
  | refl => exact h
  | tail _ effect ih => exact ih.effect effect

end Orderly

end DataMapper
