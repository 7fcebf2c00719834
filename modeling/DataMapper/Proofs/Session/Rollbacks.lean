import DataMapper.Proofs.Session.Interleaving

/-!
# Rollbacks that fail

A transaction is rolled back on one of four paths. On two of them a rollback that fails costs the
connection, which may still be inside the transaction; on the other two the connection is released
all the same.

## Main definitions

* `RollbackPath`, `Move.path?` — the paths, and which of them a move takes.
* `Fate` — what becomes of a connection whose rollback has failed.
-/

namespace DataMapper

open Work

/-- Why a transaction is rolled back. -/
inductive RollbackPath where
  /-- The caller says so. -/
  | explicit
  /-- The work inside the transaction has failed. -/
  | body
  /-- The work inside the transaction was interrupted. -/
  | recovery
  /-- The session goes away. -/
  | drop
  deriving DecidableEq

/-- On this path, a connection whose rollback fails is discarded. -/
def RollbackPath.discards : RollbackPath → Bool
  | explicit | body => false
  | recovery | drop => true

namespace Move

/-- The path on which the move itself rolls back, if it does. -/
def rollback? : Move → Option RollbackPath
  | act _ .rollback => some .explicit
  | settle _ (.error _) => some .body
  | act _ .newSession | leave _ => some .drop
  | _ => none

/-- The path on which the transaction of the session is rolled back. -/
def path? (m : Move) (s : Session) : Option RollbackPath :=
  match m.rollback? with
  | some .drop => some .drop
  | own => if s.abandoned then some .recovery else own

end Move

/-! ## Exact ends -/

/-- The transaction on the connection has been rolled back on the path; if that was interrupted, the
connection is lost. Where nothing can be sent, it is discarded. -/
def RolledBack (p : RollbackPath) (c : Nat) (s : Standing) (whole : Bool) (t : Standing) : Prop :=
  (∃ st : SentStatement, st.connection = c ∧ t = ⟨{},
    if whole then
      if p.discards then s.ledger.putAway st else (s.ledger.send [st]).release c
    else s.ledger.send [st]⟩) ∨ t = ⟨{}, s.ledger.discard c⟩

section

variable {α : Type} {x : Work α} {w : Workspace} {p : RollbackPath} {c : Nat}

/-- Work that rolls back, with or without limits of time. -/
theorem timed_rolledBack {ds : List Nat}
    (h : Ends x { w with deadlines := ds }
      (fun _ v => RolledBack p c w.standing true v.standing)
      (RolledBack p c w.standing false)) :
    ∃ whole w', timed ds x w = (.done whole, w') ∧
      RolledBack p c w.standing whole w'.standing := by
  obtain ⟨whole, w', run, holds⟩ := timed_eq (Q := fun _ => RolledBack p c w.standing true) ds h
  refine ⟨whole, w', run, ?_⟩
  cases whole with
  | true => exact holds.choose_spec
  | false => exact holds.2

/-- A result that says nothing changes nothing. -/
theorem ends_nothing {y : Work Unit} {R : Standing → Prop} {I : Standing → Prop}
    (h : Ends y w (fun _ w' => R w'.standing) I) :
    Ends (y >>= fun _ => pure Answer.nothing) w (fun _ w' => R w'.standing) I := by
  refine h.bind ?_ fun _ _ holds => holds
  intro _ w₁ holds
  refine (succeeds_pure _).ends ?_
  rintro _ _ ⟨-, rfl⟩
  exact holds

theorem Session.Finished.rolledBack {l : Ledger} {sql : String} {r : Except Error Unit}
    {t : Standing} (h : Finished sql ⟨⟨some c, false⟩, l⟩ r t) (explicit : p.discards = false) :
    RolledBack p c ⟨⟨some c, false⟩, l⟩ true t := by
  cases h with
  | @ended _ _ st on text => exact .inl ⟨st, on, by simp [explicit]⟩

theorem Session.Finishing.rolledBack {l : Ledger} {sql : String} {t : Standing}
    (h : Finishing sql ⟨⟨some c, false⟩, l⟩ t) : RolledBack p c ⟨⟨some c, false⟩, l⟩ false t := by
  cases h with
  | recovering h => cases h
  | @ending _ _ st on text => exact .inl ⟨st, on, rfl⟩

theorem ends_rollback (held : w.session = ⟨some c, false⟩) :
    Ends (Action.perform .rollback) w
      (fun _ w' => RolledBack .explicit c w.standing true w'.standing)
      (RolledBack .explicit c w.standing false) := by
  rw [Workspace.standing_of_session held]
  refine ends_nothing ((Session.ends_finish ?_).mono ?_)
  · intro s finishing
    rw [Workspace.standing_of_session held] at finishing
    exact finishing.rolledBack
  · intro _ w' finished
    rw [Workspace.standing_of_session held] at finished
    exact finished.rolledBack rfl

theorem ends_settle_error (held : w.session = ⟨some c, false⟩) (e : Error) :
    Ends (Session.settle (.error e : Except Error α)) w
      (fun _ w' => RolledBack .body c w.standing true w'.standing)
      (RolledBack .body c w.standing false) := by
  rw [Workspace.standing_of_session held]
  refine (Session.ends_settle (.error e) ?_).mono ?_
  · intro s _ _ finishing
    rw [Workspace.standing_of_session held] at finishing
    exact finishing.rolledBack
  · intro _ w' settled
    rw [Workspace.standing_of_session held] at settled
    cases settled with
    | rolledBack finished => exact finished.rolledBack rfl

theorem ends_leave_held (held : w.session.connection = some c) (canSend : Bool) :
    Ends (Session.leave canSend) w
      (fun _ w' => RolledBack .drop c w.standing true w'.standing)
      (RolledBack .drop c w.standing false) := by
  refine (Session.succeeds_leave canSend ?_).ends ?_
  · intro d st here on _
    obtain rfl : c = d := by simpa [held] using here
    exact .inl ⟨st, on, rfl⟩
  · intro _ w' after
    simp only [held] at after
    cases canSend with
    | true =>
      obtain ⟨st, on, -, after⟩ := after
      exact .inl ⟨st, on, after⟩
    | false => exact .inr after

end

/-- A move that rolls back does so on the connection that the session holds. -/
theorem Move.perform_rolledBack {m : Move} {p : RollbackPath} {c : Nat} {w : Workspace}
    (own : m.rollback? = some p) (held : w.session.connection = some c)
    (present : p = .drop ∨ w.session.abandoned = false) :
    ∃ whole w', m.perform w = (.done whole, w') ∧ RolledBack p c w.standing whole w'.standing := by
  have session (ne : p ≠ .drop) : w.session = ⟨some c, false⟩ := by
    rw [← held, ← present.resolve_left ne]
  unfold rollback? at own
  split at own
  · next ds =>
    cases own
    exact timed_rolledBack (ends_rollback (w := { w with deadlines := ds }) (session nofun))
  · next ds e =>
    cases own
    exact timed_rolledBack (x := Session.settle (.error e))
      (ends_settle_error (w := { w with deadlines := ds }) (session nofun) e)
  · next ds =>
    cases own
    exact timed_rolledBack
      (ends_nothing (ends_leave_held (w := { w with deadlines := ds }) held true))
  · next canSend =>
    cases own
    exact timed_rolledBack (ends_leave_held (w := { w with deadlines := [] }) held canSend)
  · cases own

/-! ## Failures -/

/-- How a connection stands behind a rollback that has failed: out of the hands of the session, and
put away as the path does it, or not released if the rollback was interrupted. -/
structure Failed (p : RollbackPath) (c : Nat) (s : Standing) (whole : Bool) (t : Standing) :
    Prop where
  gone : c ∉ t.session.held
  put : whole = true → if p.discards then c ∈ t.ledger.discarded else c ∈ t.ledger.released
  kept : whole = false → c ∈ t.ledger.released → c ∈ s.ledger.released

section

variable {p : RollbackPath} {c : Nat} {s m t : Standing} {whole : Bool} {st : SentStatement}
  {sts : List SentStatement}

/-- Nothing happens to a connection that is in nobody's hands. -/
theorem Accounts.untouched {r : Receipt} (h : Accounts s t r) (born : c ≤ s.ledger.acquired)
    (gone : c ∉ s.session.held) :
    c ∉ t.session.held ∧ (c ∈ t.ledger.released ↔ c ∈ s.ledger.released) ∧
      (c ∈ t.ledger.discarded ↔ c ∈ s.ledger.discarded) ∧ ∀ st ∈ r.sent, st.connection ≠ c := by
  have apart : c ∉ s.session.held ++ r.acquired := by
    simp only [List.mem_append, not_or]
    refine ⟨gone, fun hc => ?_⟩
    have := h.lt_of_mem_acquired hc
    omega
  have none (c' : Nat) (hc' : c' ∈ r.released ++ r.discarded ++ r.lost ++ t.session.held) :
      c' ≠ c := by
    rintro rfl
    exact apart (h.connections.subset hc')
  refine ⟨fun hc => none c (by simp [hc]) rfl, ?_, ?_, ?_⟩
  · rw [h.released, List.mem_append]
    exact or_iff_right fun hc => none c (by simp [hc]) rfl
  · rw [h.discarded, List.mem_append]
    exact or_iff_right fun hc => none c (by simp [hc]) rfl
  · rintro st hst rfl
    exact apart (h.on st hst)

theorem RolledBack.failed (h : RolledBack p c s whole t)
    (sent : t.ledger.sent = s.ledger.sent ++ sts) (mem : st ∈ sts) (failed : st.failed = true) :
    Failed p c s whole t := by
  obtain ⟨st', rfl, rfl⟩ | rfl := h
  · cases whole with
    | false => exact ⟨by simp [Session.held], by simp, fun _ hc => hc⟩
    | true =>
      refine ⟨by simp [Session.held], fun _ => ?_, by simp⟩
      cases discards : p.discards with
      | false => simp [Ledger.release]
      | true =>
        simp only [discards, if_true, Ledger.sent_putAway] at sent
        obtain rfl := List.append_cancel_left sent
        obtain rfl : st = st' := by simpa using mem
        simp [Ledger.putAway, failed, Ledger.discard]
  · have none : sts = [] := List.self_eq_append_right.1 sent
    simp [none] at mem

/-- The transaction of interrupted work is rolled back before anything else is done. -/
theorem Effect.failed {ok : String → Prop} {l : Ledger} {r : Receipt}
    (h : Effect ok ⟨⟨some c, true⟩, l⟩ m) (rest : Accounts m t r) (born : c ≤ l.acquired)
    (sent : t.ledger.sent = l.sent ++ sts) (mem : st ∈ sts) (on : st.connection = c)
    (failed : st.failed = true) : Failed .recovery c ⟨⟨some c, true⟩, l⟩ whole t := by
  cases h with
  | @recover _ _ _ st' on' text =>
    subst on'
    have acquired : (l.putAway st').acquired = l.acquired := by
      unfold Ledger.putAway
      split <;> rfl
    obtain ⟨gone, released, discarded, others⟩ :=
      rest.untouched (c := st'.connection) (acquired ▸ born) (by simp [Session.held])
    have sent' : l.sent ++ ([st'] ++ r.sent) = l.sent ++ sts := by
      rw [← List.append_assoc, ← Ledger.sent_putAway, ← sent]
      exact rest.sent.symm
    rw [← List.append_cancel_left sent'] at mem
    obtain rfl : st = st' := by
      rcases List.mem_append.1 mem with mine | later
      · simpa using mine
      · exact absurd on (others st later)
    refine ⟨gone, fun _ => ?_, fun _ hc => ?_⟩
    · refine discarded.2 ?_
      simp [Ledger.putAway, failed, Ledger.discard]
    · have := released.1 hc
      simpa [Ledger.putAway, failed, Ledger.discard, Ledger.send] using this
  | discard =>
    obtain ⟨-, -, -, others⟩ := rest.untouched (c := c) born (by simp [Session.held])
    have sent' : l.sent ++ r.sent = l.sent ++ sts := by
      rw [← sent]
      exact rest.sent.symm
    rw [← List.append_cancel_left sent'] at mem
    exact absurd on (others st mem)

/-- An interrupted transaction is out of the way before an operation does anything else. -/
theorem Broken.failed {ok : String → Prop} {l : Ledger} (h : Broken ok ⟨⟨some c, true⟩, l⟩ t)
    (born : c ≤ l.acquired) (sent : t.ledger.sent = l.sent ++ sts) (mem : st ∈ sts)
    (on : st.connection = c) (failed : st.failed = true) (interrupted : whole = false) :
    Failed .recovery c ⟨⟨some c, true⟩, l⟩ whole t := by
  obtain ⟨m, effects, cut⟩ := h
  rcases effects.cases_head with rfl | ⟨m₁, first, rest⟩
  · cases cut with
    | rest =>
      have none : sts = [] := List.self_eq_append_right.1 sent
      simp [none] at mem
    | finish => exact ⟨by simp [Session.held], by simp [interrupted], fun _ hc => hc⟩
  · obtain ⟨r, accounts⟩ := Broken.accounts ⟨m, rest, cut⟩
    exact first.failed accounts born sent mem on failed

theorem Effects.failed {ok : String → Prop} {l : Ledger} (h : Effects ok ⟨⟨some c, true⟩, l⟩ t)
    (born : c ≤ l.acquired) (sent : t.ledger.sent = l.sent ++ sts) (mem : st ∈ sts)
    (on : st.connection = c) (failed : st.failed = true) :
    Failed .recovery c ⟨⟨some c, true⟩, l⟩ whole t := by
  rcases h.cases_head with rfl | ⟨m, first, rest⟩
  · have none : sts = [] := List.self_eq_append_right.1 sent
    simp [none] at mem
  · obtain ⟨r, accounts, -⟩ := Effects.accounts rest
    exact first.failed accounts born sent mem on failed

end

namespace Turned

variable {σ σ' : System} {t : Turn} {s : Session} {r : Receipt} {c : Nat} (g : Turned σ t s r σ')
include g

theorem not_mem_before (gone : c ∉ σ.held) : c ∉ t.before.held :=
  fun hc => gone (List.mem_flatMap.2 ⟨_, List.mem_of_getElem? g.present, hc⟩)

/-- A connection that is in nobody's hands does not come into any. -/
theorem not_mem_held (born : c ≤ σ.ledger.acquired) (gone : c ∉ σ.held) : c ∉ σ'.held := by
  obtain ⟨away, -⟩ := g.accounts.untouched born (g.not_mem_before gone)
  have count := g.count_held c
  rw [List.count_eq_zero_of_not_mem gone, List.count_eq_zero_of_not_mem away] at count
  exact List.count_eq_zero.1 (by omega)

/-- A connection that its session has left is in nobody's hands. -/
theorem not_mem_held_of_left (books : Books σ) (mine : c ∈ t.before.held) (left : c ∉ s.held) :
    c ∉ σ'.held := by
  have before : 0 < t.before.held.count c := List.count_pos_iff.2 mine
  have count := g.count_held c
  have one := books.count_le_one c
  rw [List.count_eq_zero_of_not_mem left] at count
  exact List.count_eq_zero.1 (by omega)

end Turned

theorem Turned.failed {σ σ' : System} {t : Turn} {s : Session} {r : Receipt} {p : RollbackPath}
    {c : Nat} {st : SentStatement} (g : Turned σ t s r σ') (born : c ≤ σ.ledger.acquired)
    (path : t.move.path? t.before = some p)
    (held : t.before.connection = some c) (mem : st ∈ t.sent) (on : st.connection = c)
    (failed : st.failed = true) :
    Failed p c ⟨t.before, σ.ledger⟩ t.whole ⟨s, σ'.ledger⟩ := by
  have sent : σ'.ledger.sent = σ.ledger.sent ++ t.sent := by
    rw [g.sent]
    exact g.accounts.sent
  have own (own : t.move.rollback? = some p) (present : p = .drop ∨ t.before.abandoned = false) :
      Failed p c ⟨t.before, σ.ledger⟩ t.whole ⟨s, σ'.ledger⟩ := by
    obtain ⟨whole, w', run, rolledBack⟩ := Move.perform_rolledBack
      (w := { σ.workspace with session := t.before }) own held present
    obtain ⟨same, rfl⟩ : whole = t.whole ∧ w' = σ'.workspace := by simpa [run] using g.run
    rw [← same, ← g.after]
    exact rolledBack.failed sent mem failed
  unfold Move.path? at path
  split at path
  · next drop =>
    cases path
    exact own drop (.inl rfl)
  · split at path
    · next abandoned =>
      cases path
      have before : t.before = ⟨some c, true⟩ := by rw [← held, ← abandoned]
      have does := g.makes.does
      rw [before] at does ⊢
      cases whole : t.whole with
      | true =>
        rw [if_pos whole] at does
        exact Effects.failed does born sent mem on failed
      | false =>
        rw [if_neg (by simp [whole])] at does
        exact does.2.failed born sent mem on failed rfl
    · next present => exact own path (.inr (by simpa using present))

/-! ## Runs -/

/-- What has become of a connection whose rollback has failed on the path. Nothing will change
that. -/
structure System.Fate (σ : System) (p : RollbackPath) (whole : Bool) (c : Nat) : Prop where
  gone : c ∉ σ.held
  born : c ≤ σ.ledger.acquired
  put : whole = true → (c ∈ σ.ledger.discarded ↔ p.discards = true) ∧
    (c ∈ σ.ledger.released ↔ p.discards = false)
  kept : whole = false → c ∉ σ.ledger.released

namespace System.Fate

variable {σ σ' : System} {p : RollbackPath} {whole : Bool} {c : Nat}

theorem turned_failed (books : Books σ) {t : Turn} {s : Session} {r : Receipt} {st : SentStatement}
    (g : Turned σ t s r σ') (path : t.move.path? t.before = some p)
    (held : t.before.connection = some c) (mem : st ∈ t.sent) (on : st.connection = c)
    (failed : st.failed = true) : σ'.Fate p t.whole c := by
  have mine : c ∈ t.before.held := Session.mem_held.2 held
  have here : c ∈ σ.held := List.mem_flatMap.2 ⟨_, List.mem_of_getElem? g.present, mine⟩
  have before := books.count_le_one c
  have after := (books.turned g).count_le_one c
  have count := g.count_held c
  have one : t.before.held.count c = 1 := by simp [Session.held, held]
  have positive := List.count_pos_iff.2 here
  have born : c ≤ σ.ledger.acquired := books.le_of_mem_held here
  obtain ⟨gone, put, kept⟩ := g.failed born path held mem on failed
  rw [List.count_eq_zero_of_not_mem gone] at count
  refine ⟨g.not_mem_held_of_left books mine gone,
    Nat.le_trans born g.accounts.acquired_le, ?_, ?_⟩
  · intro whole
    have put := put whole
    cases discards : p.discards with
    | true =>
      rw [if_pos discards] at put
      have : 0 < σ'.ledger.discarded.count c := List.count_pos_iff.2 put
      have none : c ∉ σ'.ledger.released := List.count_eq_zero.1 (by omega)
      simp [put, none]
    | false =>
      rw [if_neg (by simp [discards])] at put
      have : 0 < σ'.ledger.released.count c := List.count_pos_iff.2 put
      have none : c ∉ σ'.ledger.discarded := List.count_eq_zero.1 (by omega)
      simp [put, none]
  · intro interrupted hc
    have : 0 < σ.ledger.released.count c := List.count_pos_iff.2 (kept interrupted hc)
    omega

theorem stepped (h : σ.Fate p whole c) {e : Event} (g : Stepped σ e σ') : σ'.Fate p whole c := by
  cases g with
  | idle => exact h
  | opened => exact ⟨σ.held_opened ▸ h.gone, h.born, h.put, h.kept⟩
  | @turned t s r _ g =>
    obtain ⟨-, released, discarded, -⟩ := g.accounts.untouched h.born (g.not_mem_before h.gone)
    refine ⟨g.not_mem_held h.born h.gone, ?_, ?_, ?_⟩
    · exact Nat.le_trans h.born g.accounts.acquired_le
    · exact fun done => ⟨discarded.trans (h.put done).1, released.trans (h.put done).2⟩
    · exact fun cut hc => h.kept cut (released.1 hc)
  | cancelled present =>
    refine ⟨?_, h.born, h.put, h.kept⟩
    rw [← List.count_eq_zero, σ.count_held_cancelled present, List.count_eq_zero]
    exact h.gone
  | @meanwhile a =>
    have ledger := σ.ledger_meanwhile a
    exact ⟨h.gone, ledger ▸ h.born, ledger ▸ h.put, ledger ▸ h.kept⟩

/-- On every run, the failures of rollbacks are final. -/
theorem run (books : Books σ) (es : List Event)
    (h : ∀ t ∈ σ.turns, ∀ p c, t.move.path? t.before = some p → t.before.connection = some c →
      ∀ st ∈ t.sent, st.connection = c → st.failed = true → σ.Fate p t.whole c) :
    ∀ t ∈ (σ.run es).turns, ∀ p c, t.move.path? t.before = some p → t.before.connection = some c →
      ∀ st ∈ t.sent, st.connection = c → st.failed = true → (σ.run es).Fate p t.whole c := by
  induction es generalizing σ with
  | nil => exact h
  | cons e es ih =>
    have step := σ.stepped_step e
    refine ih (books.stepped step) ?_
    intro t ht p c path held st mem on failed
    have old (ht : t ∈ σ.turns) : (σ.step e).Fate p t.whole c :=
      (h t ht p c path held st mem on failed).stepped step
    generalize σ.step e = σ' at step ht old ⊢
    cases step with
    | idle | opened | cancelled | meanwhile => exact old ht
    | turned g =>
      rcases g.mem_turns.1 ht with before | rfl
      · exact old before
      · exact turned_failed books g path held mem on failed

end System.Fate

/-- On every run, a connection whose rollback has failed on the recovery of an interrupted
transaction or with its session is discarded, and one whose rollback has failed on another path is
released. If the rollback was interrupted before its failure could be told, the connection is not
released. -/
theorem System.discarded_iff_of_failed (config : Config) (rules : List Rule) (store : TextStore)
    (records : List (String × Record)) (es : List Event) :
    let σ := (System.start config rules store records).run es
    ∀ t ∈ σ.turns, ∀ p c, t.move.path? t.before = some p → t.before.connection = some c →
      ∀ st ∈ t.sent, st.connection = c → st.sql = Session.rollbackText → st.failed = true →
        σ.ledger.HasBegun c ∧
        (t.whole = true → (c ∈ σ.ledger.discarded ↔ p.discards = true) ∧
          (c ∈ σ.ledger.released ↔ p.discards = false)) ∧
        (t.whole = false → c ∉ σ.ledger.released) := by
  intro σ t ht p c path held st mem on _ failed
  have books : Books σ := (Books.start config rules store records).run es
  have fate : σ.Fate p t.whole c := Fate.run (Books.start config rules store records) es
    (by simp [start]) t ht p c path held st mem on failed
  exact ⟨books.begun t ht c (Session.mem_held.2 held), fate.put, fate.kept⟩

/-- Every rollback fails. -/
def failingRollback : List Rule :=
  [⟨"ROLLBACK", .failure (.ofState "08006" "connection lost"), none⟩]

/-- The recovery of an interrupted transaction discards the connection. -/
theorem System.discarded_of_recovery :
    let σ := (System.start {} failingRollback .empty []).run
      [.opened, .turn 0 (.act [] (.begin {})), .cancelled 0, .turn 0 (.act [] .commit)]
    σ.ledger.HasBegun 1 ∧ 1 ∈ σ.ledger.discarded ∧ 1 ∉ σ.ledger.released := by
  intro σ
  have rolledBack : ∃ t ∈ σ.turns, t.whole = true ∧ t.move.path? t.before = some .recovery ∧
      t.before.connection = some 1 ∧ ∃ st ∈ t.sent, st.connection = 1 ∧
        st.sql = Session.rollbackText ∧ st.failed = true := by decide
  obtain ⟨t, ht, whole, path, held, st, mem, on, text, failed⟩ := rolledBack
  obtain ⟨begun, put, -⟩ := System.discarded_iff_of_failed {} failingRollback .empty [] _
    t ht .recovery 1 path held st mem on text failed
  obtain ⟨discarded, released⟩ := put whole
  exact ⟨begun, discarded.2 rfl, fun hc => absurd (released.1 hc) (by decide)⟩

/-- An explicit rollback that fails hands the connection back all the same. -/
theorem System.not_discarded_of_explicit :
    let σ := (System.start {} failingRollback .empty []).run
      [.opened, .turn 0 (.act [] (.begin {})), .turn 0 (.act [] .rollback)]
    ¬ ∀ t ∈ σ.turns, ∀ c, t.before.connection = some c →
      ∀ st ∈ t.sent, st.connection = c → st.sql = Session.rollbackText → st.failed = true →
        c ∈ σ.ledger.discarded ∧ c ∉ σ.ledger.released := by
  intro σ claimed
  have rolledBack : ∃ t ∈ σ.turns, t.before.connection = some 1 ∧ ∃ st ∈ t.sent,
      st.connection = 1 ∧ st.sql = Session.rollbackText ∧ st.failed = true := by decide
  obtain ⟨t, ht, held, st, mem, on, text, failed⟩ := rolledBack
  exact absurd (claimed t ht 1 held st mem on text failed).1 (by decide)

end DataMapper
