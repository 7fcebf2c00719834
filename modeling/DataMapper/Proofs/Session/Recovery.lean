import DataMapper.Proofs.Session.Rollbacks

/-!
# The recovery of abandoned transactions

Whatever is asked of a session whose transaction is abandoned, it either leaves the transaction
alone or rolls it back before it does anything else.

## Main definitions

* `Heeds`, `heeding` — an abandoned transaction comes first.
* `Disposed` — what becomes of an abandoned transaction.
-/

namespace DataMapper

open Work

/-! ## The course -/

/-- A transaction that is abandoned is left alone, or is rolled back before anything else is done;
`next` comes behind that. -/
def Heeds (next : SentStatement → Standing → Standing → Prop) (s t : Standing) : Prop :=
  ∀ c, s.session = ⟨some c, true⟩ → t = s ∨
    ∃ st, st.connection = c ∧ st.sql = Session.rollbackText ∧ next st s t

/-- Operations behind the rollback of an abandoned transaction. -/
def Behind (ok : String → Prop) (st : SentStatement) (s t : Standing) : Prop :=
  Effects ok ⟨{}, s.ledger.putAway st⟩ t

/-- The rollback has been interrupted, or something behind it. -/
def BrokenBehind (ok : String → Prop) (st : SentStatement) (s t : Standing) : Prop :=
  t = ⟨{}, s.ledger.send [st]⟩ ∨ Broken ok ⟨{}, s.ledger.putAway st⟩ t

/-- Effects one after another, of which an abandoned transaction comes first. -/
def heeding (ok : String → Prop) : Course where
  whole s t := Effects ok s t ∧ Heeds (Behind ok) s t
  part s t := Broken ok s t ∧ Heeds (BrokenBehind ok) s t
  refl _ := ⟨.refl, fun _ _ => .inl rfl⟩
  trans := by
    rintro s t u ⟨first, heeds⟩ ⟨second, heeds'⟩
    refine ⟨first.trans second, ?_⟩
    intro c abandoned
    rcases heeds c abandoned with rfl | ⟨st, on, text, behind⟩
    · exact heeds' c abandoned
    · exact .inr ⟨st, on, text, behind.trans second⟩
  part_of_whole := by
    rintro s t ⟨effects, heeds⟩
    refine ⟨effects.broken, ?_⟩
    intro c abandoned
    rcases heeds c abandoned with rfl | ⟨st, on, text, behind⟩
    · exact .inl rfl
    · exact .inr ⟨st, on, text, .inr behind.broken⟩
  whole_part := by
    rintro s t u ⟨first, heeds⟩ ⟨broken, heeds'⟩
    refine ⟨(operating ok).whole_part first broken, ?_⟩
    intro c abandoned
    rcases heeds c abandoned with rfl | ⟨st, on, text, behind⟩
    · exact heeds' c abandoned
    · exact .inr ⟨st, on, text, .inr ((operating ok).whole_part behind broken)⟩

section

variable {α : Type} {ok : String → Prop} {x : Work α} {w : Workspace}

theorem heeds_of_present {next : SentStatement → Standing → Standing → Prop} {s t : Standing}
    (present : ∀ c, s.session ≠ ⟨some c, true⟩) : Heeds next s t :=
  fun c abandoned => absurd abandoned (present c)

/-- Of two things that are known of work, only the second is about abandoned transactions. -/
theorem does_heeding (does : Does (operating ok) x)
    (heeds : ∀ (w : Workspace) (c : Nat), w.session = ⟨some c, true⟩ →
      Ends x w (fun _ v => Heeds (Behind ok) w.standing v.standing)
        (Heeds (BrokenBehind ok) w.standing)) :
    Does (heeding ok) x := by
  intro w
  by_cases abandoned : ∃ c, w.session = ⟨some c, true⟩
  · obtain ⟨c, abandoned⟩ := abandoned
    exact (does w).and (heeds w c abandoned)
  · have present (c : Nat) : w.standing.session ≠ ⟨some c, true⟩ := fun is => abandoned ⟨c, is⟩
    exact ((does w).mono fun _ _ effects => ⟨effects, heeds_of_present present⟩).interrupted_mono
      fun _ broken => ⟨broken, heeds_of_present present⟩

theorem Session.Recovering.heeds {s t : Standing} (h : Recovering s t) :
    Heeds (BrokenBehind ok) s t := by
  cases h with
  | @rollingBack c l st on text =>
    rintro _ ⟨⟩
    exact .inr ⟨st, on, text, .inl rfl⟩

/-- What begins with the recovery does the rest in a session without a transaction. -/
theorem does_heeding_of_recover {f : Work α}
    (does : Does (operating ok) (Session.recover >>= fun _ => f)) :
    Does (heeding ok) (Session.recover >>= fun _ => f) := by
  refine does_heeding does ?_
  intro w c abandoned
  refine .after (Session.succeeds_recover fun _ recovering => recovering.heeds) ?_
  intro b w₁ recovered
  have standing := Workspace.standing_of_session abandoned
  rw [standing] at recovered
  obtain ⟨st, on, text, after⟩ := recovered.exists_rollback
  have present : w₁.session.abandoned = false := congrArg (·.session.abandoned) after
  have again : f w₁ = (Session.recover >>= fun _ => f) w₁ := by
    rw [bind_apply, Session.recover_of_present present]
  have rest := (does w₁).congr again
  rw [after] at rest
  refine (rest.mono ?_).interrupted_mono ?_
  · intro _ v effects
    rw [standing]
    rintro _ ⟨⟩
    exact .inr ⟨st, on, text, effects⟩
  · intro t broken
    rw [standing]
    rintro _ ⟨⟩
    exact .inr ⟨st, on, text, .inr broken⟩

theorem Session.Finished.heeds {sql : String} {s t : Standing} {r : Except Error Unit}
    (h : Finished sql s r t) : Heeds (Behind ok) s t := by
  cases h with
  | ended | inactive => exact heeds_of_present (by simp)
  | @recovered c l st on text =>
    rintro _ ⟨⟩
    exact .inr ⟨st, on, text, .refl⟩

theorem Session.Finishing.heeds {sql : String} {s t : Standing} (h : Finishing sql s t) :
    Heeds (BrokenBehind ok) s t := by
  cases h with
  | recovering h => exact h.heeds
  | ending => exact heeds_of_present (by simp)

theorem heeding_carries (data : ∀ sql, IsData sql → ok sql) : (heeding ok).Carries ok where
  data
  onConnection h := does_heeding_of_recover (Session.does_onConnection h)
  start o := does_heeding_of_recover (Session.does_start o)
  finish text := by
    refine does_heeding (Session.does_finish text) ?_
    intro w c _
    exact (Session.ends_finish fun _ finishing => finishing.heeds).mono
      fun _ _ finished => finished.heeds
  savepointCommand {command name} text := by
    have does : Does (operating ok) (Session.savepointCommand command name) :=
      Session.does_savepointCommand text
    unfold Session.savepointCommand at does ⊢
    split
    · exact .fail _
    · next named =>
      rw [if_neg named] at does
      exact does_heeding_of_recover does
  leave := by
    refine does_heeding (Session.does_leave true) ?_
    intro w c abandoned
    rw [Workspace.standing_of_session abandoned]
    refine (Session.succeeds_leave true ?_).ends ?_
    · intro d st held on text
      obtain rfl : d = c := by simpa [abandoned] using held.symm
      rintro _ ⟨⟩
      exact .inr ⟨st, on, text, .inl rfl⟩
    · intro _ v left
      simp only [abandoned] at left
      obtain ⟨st, on, text, after⟩ := left
      rintro _ ⟨⟩
      refine .inr ⟨st, on, text, ?_⟩
      rw [after]
      exact .refl

/-- The end of a transaction around work is that of a transaction by hand. -/
theorem Course.Carries.settle {C : Course} (carries : C.Carries ok) (outcome : Except Error α) :
    Does C (Session.settle outcome) := by
  unfold Session.settle
  refine .read fun w => ?_
  cases outcome with
  | ok a =>
    dsimp only
    split
    · exact .bind (carries.finish (.inl rfl)) fun _ => .pure _
    · exact .pure _
  | error e =>
    dsimp only
    split
    · refine .bind (carries.finish (.inr rfl)).attempt fun result => ?_
      cases result with
      | ok => exact .fail e
      | error e' => exact .bind (.modify (fun _ => rfl) fun _ => rfl) fun _ => .fail e
    · exact .fail e

end

/-! ## Moves -/

/-- What becomes of an abandoned transaction on a connection by a move that sends these
statements. -/
inductive Disposed (m : Move) (c : Nat) (s : Standing) (t : Standing) :
    List SentStatement → Prop where
  | left (same : t = s) : Disposed m c s t []
  /-- Behind the rollback, nothing has to do with the connection. -/
  | rolledBack {st : SentStatement} {rest : List SentStatement} (on : st.connection = c)
      (text : st.sql = Session.rollbackText) (others : ∀ st' ∈ rest, st'.connection ≠ c)
      (gone : c ∉ t.session.held) : Disposed m c s t (st :: rest)
  /-- The session goes away where nothing can be sent. -/
  | discarded (leaves : m.leaves = true) (gone : t.session = {}) : Disposed m c s t []

section

variable {α : Type} {ok : String → Prop} {c : Nat} {w : Workspace} {l : Ledger}
  {st : SentStatement} {t : Standing} {sts : List SentStatement} {m : Move}

theorem Accounts.disposed {r : Receipt} (h : Accounts ⟨{}, l.putAway st⟩ t r)
    (on : st.connection = c) (text : st.sql = Session.rollbackText) (born : c ≤ l.acquired)
    (sent : t.ledger.sent = l.sent ++ sts) : Disposed m c ⟨⟨some c, true⟩, l⟩ t sts := by
  have born' : c ≤ (l.putAway st).acquired := by rwa [Ledger.acquired_putAway]
  obtain ⟨gone, -, -, others⟩ := h.untouched (c := c) born' (by simp [Session.held])
  have same : l.sent ++ (st :: r.sent) = l.sent ++ sts := by
    rw [← sent, h.sent, Ledger.sent_putAway, List.append_assoc]
    rfl
  rw [← List.append_cancel_left same]
  exact .rolledBack on text others gone

theorem disposed_of_heeds {next : SentStatement → Standing → Standing → Prop}
    (h : Heeds next ⟨⟨some c, true⟩, l⟩ t) (sent : t.ledger.sent = l.sent ++ sts)
    (behind : ∀ st, st.connection = c → st.sql = Session.rollbackText →
      next st ⟨⟨some c, true⟩, l⟩ t → Disposed m c ⟨⟨some c, true⟩, l⟩ t sts) :
    Disposed m c ⟨⟨some c, true⟩, l⟩ t sts := by
  rcases h c rfl with rfl | ⟨st, on, text, after⟩
  · rw [List.self_eq_append_right.1 sent]
    exact .left rfl
  · exact behind st on text after

theorem Behind.disposed (h : Behind ok st ⟨⟨some c, true⟩, l⟩ t) (on : st.connection = c)
    (text : st.sql = Session.rollbackText) (born : c ≤ l.acquired)
    (sent : t.ledger.sent = l.sent ++ sts) : Disposed m c ⟨⟨some c, true⟩, l⟩ t sts := by
  obtain ⟨r, accounts, -⟩ := Effects.accounts h
  exact accounts.disposed on text born sent

theorem BrokenBehind.disposed (h : BrokenBehind ok st ⟨⟨some c, true⟩, l⟩ t)
    (on : st.connection = c) (text : st.sql = Session.rollbackText) (born : c ≤ l.acquired)
    (sent : t.ledger.sent = l.sent ++ sts) : Disposed m c ⟨⟨some c, true⟩, l⟩ t sts := by
  rcases h with rfl | broken
  · rw [← List.append_cancel_left sent]
    exact .rolledBack on text (by simp) (by simp [Session.held])
  · obtain ⟨r, accounts⟩ := broken.accounts
    exact accounts.disposed on text born sent

/-- A move of a session whose transaction is abandoned rolls it back first, if it sends anything. -/
theorem Move.perform_disposed (m : Move) (abandoned : w.session = ⟨some c, true⟩)
    (born : c ≤ w.standing.ledger.acquired) :
    ∃ whole w', m.perform w = (.done whole, w') ∧ ∀ sts,
      w'.standing.ledger.sent = w.standing.ledger.sent ++ sts →
        Disposed m c w.standing w'.standing sts := by
  have standing := Workspace.standing_of_session abandoned
  rw [standing]
  let D (t : Standing) : Prop := ∀ sts, t.ledger.sent = w.standing.ledger.sent ++ sts →
    Disposed m c ⟨⟨some c, true⟩, w.standing.ledger⟩ t sts
  have ended {α : Type} {x : Work α} {ds : List Nat}
      (h : Ends x { w with deadlines := ds } (fun _ v => D v.standing) D) :
      ∃ whole w', timed ds x w = (.done whole, w') ∧ D w'.standing := by
    obtain ⟨whole, w', run, holds⟩ := timed_eq (Q := fun _ => D) ds h
    refine ⟨whole, w', run, ?_⟩
    cases whole with
    | true => exact holds.choose_spec
    | false => exact holds.2
  have heeded {α : Type} {x : Work α} {ok : String → Prop} {ds : List Nat}
      (h : Does (heeding ok) x) : ∃ whole w', timed ds x w = (.done whole, w') ∧ D w'.standing := by
    have course := h { w with deadlines := ds }
    rw [show ({ w with deadlines := ds } : Workspace).standing =
      ⟨⟨some c, true⟩, w.standing.ledger⟩ from standing] at course
    refine ended ((course.mono ?_).interrupted_mono ?_)
    · rintro _ v ⟨-, heeds⟩ sts sent
      exact disposed_of_heeds heeds sent fun st on text behind => behind.disposed on text born sent
    · rintro t ⟨-, heeds⟩ sts sent
      exact disposed_of_heeds heeds sent fun st on text behind => behind.disposed on text born sent
  cases m with
  | act ds a => exact heeded (a.does_of_carries (heeding_carries fun _ h => .inl h.not_isControl))
  | settle ds outcome =>
    have carries : (heeding fun _ => True).Carries fun _ => True :=
      heeding_carries fun _ _ => trivial
    exact heeded (x := Session.settle outcome) (carries.settle outcome)
  | leave canSend =>
    refine ended ((Session.succeeds_leave canSend ?_).ends ?_)
    · intro d st held on text sts sent
      obtain rfl : d = c := by simpa [abandoned] using held.symm
      rw [← List.append_cancel_left sent]
      exact .rolledBack on text (by simp) (by simp [Session.held])
    · intro _ v left sts sent
      simp only [abandoned] at left
      cases canSend with
      | true =>
        obtain ⟨st, on, text, after⟩ := left
        rw [after, Ledger.sent_putAway] at sent
        rw [after, ← List.append_cancel_left sent]
        exact .rolledBack on text (by simp) (by simp [Session.held])
      | false =>
        rw [left] at sent ⊢
        rw [List.self_eq_append_right.1 sent]
        exact .discarded rfl rfl

end

end DataMapper
