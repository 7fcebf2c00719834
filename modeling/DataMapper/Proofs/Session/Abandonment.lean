import DataMapper.Proofs.Session.Commands
import DataMapper.Proofs.Session.Recovery
import DataMapper.Proofs.Session.Refusals
import DataMapper.Proofs.Session.Transactions

/-!
# Abandoned transactions

A transaction whose work is interrupted counts as none: it is rolled back before its session sends
anything else, and nothing else is ever sent on its connection.

## Main definitions

* `sentBy` — what a session has sent in some turns.
* `Abandoned` — how a system stands since the transaction of a session has been abandoned.
-/

namespace DataMapper

open Work

/-! ## Interrupted calls -/

namespace Session

variable {α : Type} {ok : String → Prop} {body : Work α} {w : Workspace}

theorem isActive_eq_false {s : Session} (h : s.connection = none) : s.isActive = false := by
  simp [isActive, h]

theorem Opening.inactive {o : Sql.TransactionOptions} {s t : Standing} (h : Opening o s t) :
    t.session.isActive = false := by
  cases h with
  | recovering h =>
    cases h
    rfl
  | beginning => rfl

theorem Opened.closed_or {o : Sql.TransactionOptions} {s t : Standing} {e : Error}
    (h : Opened o s (.error e) t) :
    t.session.connection = none ∨ e = .transaction .alreadyActive := by
  cases h with
  | active => exact .inr rfl
  | refused | rejected => exact .inl rfl

theorem ends_marked {x : Work α} {Q : Except Error α → Workspace → Prop} {I : Standing → Prop}
    (h : Ends x w Q I) : Ends (marked x) w Q (fun s => s.session.isActive = false) := by
  cases h with
  | @ended r v run kept holds => exact .ended (marked_eq_ofExcept.2 run) kept holds
  | @interrupted l v run level =>
    refine .interrupted (v := { v with session.abandoned := true }) (by simp [marked, run]) level ?_
    simp [Workspace.standing, isActive]

/-- Work in a transaction leaves none open, or the one it leaves is abandoned. -/
theorem ends_conclude (plays : Plays ok body) :
    Ends (conclude body) w (fun _ v => v.session.connection = none)
      (fun s => s.session.isActive = false) := by
  refine ends_marked (I := fun _ => True) (.after (plays.ends w).attempt ?_)
  intro outcome w₁ _
  refine (ends_settle outcome fun _ _ _ _ => trivial).mono ?_
  intro r v settled
  obtain ⟨own, conclusion⟩ := settled.concluded
  exact conclusion.closed

theorem ends_transaction (o : Sql.TransactionOptions) (plays : Plays ok body) :
    Ends (transaction o body) w (fun _ _ => True) (fun s => s.session.isActive = false) :=
  (ends_start o fun _ opening => opening.inactive).bind
    (fun _ _ _ => (ends_conclude plays).mono fun _ _ _ => trivial) fun _ _ _ => trivial

/-- Between attempts there is no transaction that could be left open. -/
theorem ends_attempts (o : Sql.TransactionOptions) (plays : Plays ok body)
    (number runs left : Nat) :
    Ends (attempts o body number runs left) w (fun _ _ => True)
      (fun s => s.session.isActive = false) := by
  induction left using Nat.strongRecOn generalizing number runs w with
  | ind left ih =>
    unfold attempts
    refine .after (ends_start o fun _ opening => opening.inactive).attempt ?_
    rintro opening opened ⟨b, s, recovered, opens⟩
    -- Whether the work was run or not, the outcome decides what follows. Only a session that has a
    -- transaction already still has one then, and that is not tried again.
    cases opening <;> refine .after (P := fun outcome v => v.session.connection = none ∨
      outcome = .error (.transaction .alreadyActive)) ?_ ?_
    case error.refine_1 e =>
      refine (succeeds_pure _).mono ?_
      rintro _ v ⟨rfl, rfl⟩
      exact opens.closed_or.imp id fun refused => congrArg Except.error refused
    case ok.refine_1 => exact (ends_conclude plays).attempt.mono fun _ _ closed => .inl closed
    all_goals
      intro outcome v closed
      dsimp only
      cases outcome with
      | ok x => exact .ended (r := .ok _) rfl rfl trivial
      | error e =>
        dsimp only
        split
        · exact (ends_fail e).mono fun _ _ _ => trivial
        · next met =>
          have inactive : v.standing.session.isActive = false := by
            refine isActive_eq_false (closed.resolve_right ?_)
            rintro ⟨⟩
            simp [Error.isConflict] at met
          cases left with
          | zero =>
            refine .after (succeeds_warn _ _) fun _ _ _ => ?_
            exact (ends_fail _).mono fun _ _ _ => trivial
          | succ left =>
            refine .after (succeeds_modify (by rfl)) ?_
            rintro _ v₁ rfl
            refine .after succeeds_retryPause fun _ v₂ same => ?_
            refine .after (succeeds_pause _ (same ▸ inactive)) fun _ _ _ => ?_
            exact ih left (Nat.lt_succ_self left) _ _

/-- Work in a transaction that is interrupted while the transaction is open leaves it abandoned. -/
theorem abandoned_of_interrupted {o : Sql.TransactionOptions} (plays : Plays ok body) {l c : Nat}
    {v : Workspace}
    (cancelled : transaction o body w = (.interrupted l, v) ∨ retry o body w = (.interrupted l, v))
    (isOpen : v.session.connection = some c) : v.session = ⟨some c, true⟩ := by
  have inactive : v.session.isActive = false := by
    rcases cancelled with run | run
    · exact (ends_transaction o plays).of_interrupted run
    · exact (ends_config (ends_attempts o plays 1 0 _)).of_interrupted run
  have abandoned : v.session.abandoned = true := by simpa [isActive, isOpen] using inactive
  rw [← isOpen, ← abandoned]

/-! ## The end of an abandoned transaction by hand -/

theorem ends_commit_abandoned {c : Nat} (abandoned : w.session = ⟨some c, true⟩) :
    Ends commit w (fun r _ => r = .error (.transaction (.inactive commitText)))
      (fun _ => True) := by
  refine (ends_finish fun _ _ => trivial).mono ?_
  intro r v finished
  rw [Workspace.standing_of_session abandoned] at finished
  generalize v.standing = t at finished
  cases finished
  rfl

theorem ends_rollback_abandoned {c : Nat} (abandoned : w.session = ⟨some c, true⟩) :
    Ends rollback w (fun r _ => r = .ok ()) (fun _ => True) := by
  refine (ends_finish fun _ _ => trivial).mono ?_
  intro r v finished
  rw [Workspace.standing_of_session abandoned] at finished
  generalize v.standing = t at finished
  cases finished
  rfl

end Session

/-! ## Since a transaction has been abandoned -/

/-- What the session in this place has sent in its turns. -/
def sentBy (i : Nat) (ts : List Turn) : List SentStatement :=
  ts.flatMap fun t => if t.session = i then t.sent else []

theorem sentBy_concat (i : Nat) (ts : List Turn) (t : Turn) :
    sentBy i (ts ++ [t]) = sentBy i ts ++ if t.session = i then t.sent else [] := by
  simp [sentBy]

/-- How a transaction stands that was abandoned on the connection, by what its session has sent
since. -/
inductive Awaits (σ σ' : System) (i c : Nat) : List SentStatement → Prop where
  | waiting (present : σ'.sessions[i]? = some (some ⟨some c, true⟩))
      (on_eq : σ'.ledger.on c = σ.ledger.on c) : Awaits σ σ' i c []
  | rolledBack {st : SentStatement} {rest : List SentStatement} (on : st.connection = c)
      (text : st.sql = Session.rollbackText) (gone : c ∉ σ'.held)
      (on_eq : σ'.ledger.on c = σ.ledger.on c ++ [st]) : Awaits σ σ' i c (st :: rest)
  /-- The session has gone away where nothing could be sent. -/
  | discarded (left : σ'.sessions[i]? = some none) (gone : c ∉ σ'.held)
      (on_eq : σ'.ledger.on c = σ.ledger.on c) : Awaits σ σ' i c []

/-- What leaves the session and the connection alone. -/
theorem Awaits.step {σ σ' σ'' : System} {i c : Nat} {sts : List SentStatement}
    (h : Awaits σ σ' i c sts) (on_eq : σ''.ledger.on c = σ'.ledger.on c)
    (gone : c ∉ σ'.held → c ∉ σ''.held)
    (present : σ'.sessions[i]? = some (some ⟨some c, true⟩) →
      σ''.sessions[i]? = some (some ⟨some c, true⟩))
    (left : σ'.sessions[i]? = some none → σ''.sessions[i]? = some none) :
    Awaits σ σ'' i c sts := by
  cases h with
  | waiting here same => exact .waiting (present here) (on_eq.trans same)
  | rolledBack on text away same => exact .rolledBack on text (gone away) (on_eq.trans same)
  | discarded none away same => exact .discarded (left none) (gone away) (on_eq.trans same)

/-- How a system stands since the transaction of a session on this connection was abandoned, with
the turns since. -/
structure Abandoned (σ σ' : System) (i c : Nat) (ts : List Turn) : Prop where
  turns : σ'.turns = σ.turns ++ ts
  born : c ≤ σ'.ledger.acquired
  awaits : Awaits σ σ' i c (sentBy i ts)
  /-- Any other connection in its hands, the session has begun a transaction on since. -/
  begun : ∀ s, σ'.sessions[i]? = some (some s) → ∀ d ∈ s.held, d ≠ c →
    ∃ st ∈ sentBy i ts, st.connection = d ∧ IsBegin st.sql ∧ st.failed = false

theorem Turned.on_eq {σ σ' : System} {t : Turn} {s : Session} {r : Receipt} {c : Nat}
    (g : Turned σ t s r σ') (born : c ≤ σ.ledger.acquired) (away : c ∉ t.before.held) :
    σ'.ledger.on c = σ.ledger.on c := by
  refine g.accounts.on_eq_of_not_mem ?_
  simp only [List.mem_append, not_or]
  refine ⟨away, fun fresh => ?_⟩
  have : σ.ledger.acquired < c := g.accounts.lt_of_mem_acquired fresh
  omega

namespace Abandoned

variable {σ σ' σ'' : System} {i c : Nat} {ts : List Turn}

theorem start (books : Books σ) (present : σ.sessions[i]? = some (some ⟨some c, true⟩)) :
    Abandoned σ σ i c [] where
  turns := by simp
  born := by
    refine books.le_of_mem_held ?_
    exact List.mem_flatMap.2 ⟨_, List.mem_of_getElem? present, Session.mem_held.2 rfl⟩
  awaits := .waiting present rfl
  begun s at_i d hd ne := by
    obtain rfl : s = ⟨some c, true⟩ := by grind
    exact absurd (Option.some.inj (Session.mem_held.1 hd)).symm ne

/-- The turn of another session. -/
theorem other (h : Abandoned σ σ' i c ts) (books : Books σ') {t : Turn} {s : Session}
    {r : Receipt} (g : Turned σ' t s r σ'') (ne : t.session ≠ i) :
    Abandoned σ σ'' i c (ts ++ [t]) := by
  have sent : sentBy i (ts ++ [t]) = sentBy i ts := by simp [sentBy_concat, ne]
  have here : σ''.sessions[i]? = σ'.sessions[i]? := by rw [g.sessions, List.getElem?_set_ne ne]
  have away : c ∉ t.before.held := by
    have awaits := h.awaits
    generalize sentBy i ts = sts at awaits
    cases awaits with
    | waiting present => exact books.not_mem_held ne.symm present g.present (Session.mem_held.2 rfl)
    | rolledBack _ _ gone | discarded _ gone => exact g.not_mem_before gone
  have awaits : Awaits σ σ'' i c (sentBy i ts) :=
    h.awaits.step (g.on_eq h.born away) (g.not_mem_held h.born) here.trans here.trans
  refine ⟨by rw [g.turns, h.turns, List.append_assoc], ?_, sent ▸ awaits, ?_⟩
  · exact Nat.le_trans h.born g.accounts.acquired_le
  · rw [sent, here]
    exact h.begun

/-- The turn of the session itself, while its transaction is abandoned. -/
theorem awaits_of_waiting (books : Books σ')
    (present : σ'.sessions[i]? = some (some ⟨some c, true⟩))
    (on_eq : σ'.ledger.on c = σ.ledger.on c) (born : c ≤ σ'.ledger.acquired) {t : Turn}
    {s : Session} {r : Receipt} (g : Turned σ' t s r σ'') (own : t.session = i) :
    Awaits σ σ'' i c t.sent := by
  have before : t.before = ⟨some c, true⟩ := by
    have at_i := g.present
    rw [own, present] at at_i
    exact (Option.some.inj (Option.some.inj at_i)).symm
  obtain ⟨whole, w', run, disposed⟩ :=
    t.move.perform_disposed (w := { σ'.workspace with session := t.before }) before born
  obtain ⟨-, rfl⟩ : whole = t.whole ∧ w' = σ''.workspace := by simpa [run] using g.run
  have disposed := disposed t.sent (g.sent ▸ g.accounts.sent)
  have here : σ''.sessions[i]? = some (if t.move.leaves then none else some s) := by
    rw [g.sessions, own]
    obtain ⟨inside, -⟩ := List.getElem?_eq_some_iff.1 present
    exact List.getElem?_set_self inside
  have sent := g.accounts.on_eq c
  rw [← g.sent] at sent
  have session : σ''.workspace.session = s := g.after
  have mine : c ∈ t.before.held := before ▸ Session.mem_held.2 rfl
  generalize t.sent = sts at disposed sent
  cases disposed with
  | left same =>
    have stays : s = ⟨some c, true⟩ := by
      rw [← session, ← before]
      exact congrArg Standing.session same
    have there : t.move.leaves = false := by
      cases leaves : t.move.leaves with
      | false => rfl
      | true =>
        have gone : s = {} := g.makes.gone leaves
        rw [stays] at gone
        cases gone
    refine .waiting ?_ (by simpa [sent] using on_eq)
    simpa [there, stays] using here
  | rolledBack on text others gone =>
    refine .rolledBack on text (g.not_mem_held_of_left books mine (session ▸ gone)) ?_
    rw [sent, on_eq, List.filter_cons_of_pos (by simpa using on),
      List.filter_eq_nil_iff.2 (by simpa using others)]
  | discarded leaves gone =>
    have empty : s = {} := session ▸ gone
    have away : c ∉ s.held := by simp [empty, Session.held]
    refine .discarded ?_ (g.not_mem_held_of_left books mine away) (by simpa [sent] using on_eq)
    simpa [leaves] using here

/-- A turn of the session itself. -/
theorem own (h : Abandoned σ σ' i c ts) (books : Books σ') {t : Turn} {s : Session} {r : Receipt}
    (g : Turned σ' t s r σ'') (own : t.session = i) : Abandoned σ σ'' i c (ts ++ [t]) := by
  have sent : sentBy i (ts ++ [t]) = sentBy i ts ++ t.sent := by simp [sentBy_concat, own]
  have awaits : Awaits σ σ'' i c (sentBy i ts ++ t.sent) := by
    have awaits := h.awaits
    generalize sentBy i ts = sts at awaits
    cases awaits with
    | waiting present on_eq => exact awaits_of_waiting books present on_eq h.born g own
    | rolledBack on text gone on_eq =>
      exact .rolledBack on text (g.not_mem_held h.born gone)
        ((g.on_eq h.born (g.not_mem_before gone)).trans on_eq)
    | discarded left =>
      have present := g.present
      rw [own, left] at present
      cases present
  refine ⟨by rw [g.turns, h.turns, List.append_assoc], ?_, sent ▸ awaits, ?_⟩
  · exact Nat.le_trans h.born g.accounts.acquired_le
  · intro s' at_i d hd ne
    rw [sent]
    rcases g.session_cases at_i with ⟨-, rfl⟩ | ⟨other, -⟩
    · rcases g.accounts.begun d hd with before | ⟨st, hst, begins⟩
      · obtain ⟨st, hst, begins⟩ := h.begun t.before (own ▸ g.present) d before ne
        exact ⟨st, List.mem_append_left _ hst, begins⟩
      · exact ⟨st, List.mem_append_right _ (g.sent ▸ hst), begins⟩
    · exact absurd own.symm other

theorem stepped (h : Abandoned σ σ' i c ts) (books : Books σ') {e : Event}
    (g : Stepped σ' e σ'') : ∃ ts', Abandoned σ σ'' i c ts' := by
  cases g with
  | idle => exact ⟨ts, h⟩
  | @turned t s r _ g =>
    by_cases own : t.session = i
    · exact ⟨_, h.own books g own⟩
    · exact ⟨_, h.other books g own⟩
  | opened =>
    have stays {s : Option Session} (at_i : σ'.sessions[i]? = some s) :
        (σ'.sessions ++ [some ({} : Session)])[i]? = some s := by
      rw [List.getElem?_append_left (List.getElem?_eq_some_iff.1 at_i).1, at_i]
    refine ⟨ts, h.turns, h.born, h.awaits.step rfl (fun gone => ?_) stays stays, ?_⟩
    · rwa [σ'.held_opened]
    · intro s at_i d hd
      rw [List.getElem?_append] at at_i
      split at at_i
      · exact h.begun s at_i d hd
      · obtain rfl : s = {} := by grind
        cases hd
  | @cancelled j s present =>
    refine ⟨ts, h.turns, h.born, h.awaits.step rfl (fun gone => ?_) (fun here => ?_)
      (fun left => ?_), ?_⟩
    · rwa [← List.count_eq_zero, σ'.count_held_cancelled present, List.count_eq_zero]
    · rw [List.getElem?_set]
      grind
    · rw [List.getElem?_set]
      grind
    · intro s' at_i d hd
      rw [List.getElem?_set] at at_i
      split at at_i
      · next same =>
        subst same
        obtain rfl : s' = { s with abandoned := true } := by grind
        exact h.begun s present d hd
      · exact h.begun s' at_i d hd
  | @meanwhile a =>
    have ledger := σ'.ledger_meanwhile a
    exact ⟨ts, h.turns, ledger ▸ h.born, h.awaits.step (by rw [ledger]) id id id, h.begun⟩

theorem run (h : Abandoned σ σ' i c ts) (books : Books σ') (es : List Event) :
    ∃ ts', Abandoned σ (σ'.run es) i c ts' := by
  induction es generalizing σ' ts with
  | nil => exact ⟨ts, h⟩
  | cons e es ih =>
    have step := σ'.stepped_step e
    obtain ⟨ts', after⟩ := h.stepped books step
    exact ih after (books.stepped step)

end Abandoned

/-! ## Runs -/

/-- What is to be seen of an abandoned transaction on a connection, since it was abandoned. -/
structure Disowned (σ σ' : System) (i c : Nat) (ts : List Turn) : Prop where
  turns : σ'.turns = σ.turns ++ ts
  /-- The session has a transaction only if it has begun another one since. -/
  inactive : ∀ s, σ'.sessions[i]? = some (some s) → s.isActive = true →
    ∃ st ∈ sentBy i ts, s.connection = some st.connection ∧ IsBegin st.sql ∧ st.failed = false
  /-- The first statement of the session is the rollback. -/
  first : ∀ st rest, sentBy i ts = st :: rest →
    st.connection = c ∧ st.sql = Session.rollbackText
  /-- Nobody sends anything else on the connection. -/
  only : σ'.ledger.on c = σ.ledger.on c ∨
    ∃ st, σ'.ledger.on c = σ.ledger.on c ++ [st] ∧ st.sql = Session.rollbackText

theorem Abandoned.disowned {σ σ' : System} {i c : Nat} {ts : List Turn}
    (h : Abandoned σ σ' i c ts) : Disowned σ σ' i c ts := by
  have awaits := h.awaits
  have begun := h.begun
  refine ⟨h.turns, ?_, ?_, ?_⟩
  · intro s at_i active
    obtain ⟨held, present⟩ : s.connection.isSome = true ∧ s.abandoned = false := by
      simpa [Session.isActive] using active
    obtain ⟨d, held⟩ := Option.isSome_iff_exists.1 held
    have mine : d ∈ s.held := Session.mem_held.2 held
    have other : d ≠ c := by
      rintro rfl
      generalize sentBy i ts = sts at awaits
      cases awaits with
      | waiting here =>
        obtain rfl : s = ⟨some d, true⟩ := by grind
        cases present
      | rolledBack _ _ gone | discarded _ gone =>
        exact gone (List.mem_flatMap.2 ⟨_, List.mem_of_getElem? at_i, mine⟩)
    obtain ⟨st, mem, rfl, begins, fine⟩ := begun s at_i d mine other
    exact ⟨st, mem, held, begins, fine⟩
  · intro st rest sent
    rw [sent] at awaits
    cases awaits with
    | rolledBack on text => exact ⟨on, text⟩
  · generalize sentBy i ts = sts at awaits
    cases awaits with
    | waiting _ same | discarded _ _ same => exact .inl same
    | @rolledBack st _ _ text _ grown => exact .inr ⟨st, grown, text⟩

/-- A transaction whose work is interrupted while it is open is abandoned. On every run behind that
its session has no transaction until it begins another one, the next statement of the session is the
rollback, and nothing else is sent on the connection. A commit fails then, a rollback succeeds, and
what is refused leaves everything as it is. -/
theorem System.abandoned_run (config : Config) (rules : List Rule) (store : TextStore)
    (records : List (String × Record)) (es : List Event) {i : Nat} {w v : Workspace} {α : Type}
    {ok : String → Prop} {body : Work α} (o : Sql.TransactionOptions) {l c : Nat}
    (hosts : ((start config rules store records).run es).Hosts i w) (plays : Plays ok body)
    (cancelled : Session.transaction o body w = (.interrupted l, v) ∨
      Session.retry o body w = (.interrupted l, v))
    (isOpen : v.session.connection = some c) :
    v.session = ⟨some c, true⟩ ∧
    (∃ es', (∀ e ∈ es', e.IsOf ok i) ∧
      let σ := (System.start config rules store records).run (es ++ es')
      σ.Hosts i v ∧ ∀ fs, ∃ ts, Disowned σ (σ.run fs) i c ts) ∧
    ∀ u : Workspace, u.session = v.session →
      Ends Session.commit u
        (fun r _ => r = .error (.transaction (.inactive Session.commitText))) (fun _ => True) ∧
      Ends Session.rollback u (fun r _ => r = .ok ()) (fun _ => True) ∧
      ∀ (a : Action) (e : Error), a.check u = .error e → a.perform u = (.failed e, u) := by
  have abandoned := Session.abandoned_of_interrupted plays cancelled isOpen
  refine ⟨abandoned, ?_, ?_⟩
  · obtain ⟨es', own, after⟩ : ∃ es', (∀ e ∈ es', e.IsOf ok i) ∧
        (((start config rules store records).run es).run es').Hosts i v := by
      rcases cancelled with run | run
      · obtain ⟨es', _, v', played⟩ := Session.plays_transaction o plays _ i w hosts
        obtain ⟨-, rfl⟩ := Prod.mk.inj (run.symm.trans played.run)
        exact ⟨es', played.own, played.hosts⟩
      · obtain ⟨es', _, v', played⟩ := Session.plays_retry o plays _ i w hosts
        obtain ⟨-, rfl⟩ := Prod.mk.inj (run.symm.trans played.run)
        exact ⟨es', played.own, played.hosts⟩
    rw [← System.run_append] at after
    refine ⟨es', own, after, fun fs => ?_⟩
    have books := (Books.start config rules store records).run (es ++ es')
    have present := after.present
    rw [abandoned] at present
    obtain ⟨ts, since⟩ := (Abandoned.start books present).run books fs
    exact ⟨ts, since.disowned⟩
  · intro u same
    have left : u.session = ⟨some c, true⟩ := same.trans abandoned
    exact ⟨Session.ends_commit_abandoned left, Session.ends_rollback_abandoned left,
      fun a e refused => Action.refuses_perform refused⟩

/-- Work that takes longer than its limit leaves its transaction abandoned. -/
theorem System.abandoned_run_pause :
    let σ := (System.start {} [] .empty []).run [.opened]
    let w : Workspace := { σ.workspace with deadlines := [5] }
    let v := (Session.transaction {} (pause 10) w).2
    σ.Hosts 0 w ∧ Plays (fun _ => True) (pause 10) ∧
      Session.transaction {} (pause 10) w = (.interrupted 0, v) ∧ v.session = ⟨some 1, true⟩ ∧
      (∃ es', let σ' := (System.start {} [] .empty []).run ([.opened] ++ es')
        σ'.Hosts 0 v ∧ ∀ fs, ∃ ts, Disowned σ' (σ'.run fs) 0 1 ts) ∧
      (Action.savepoint "1").perform v = (.failed (.validation (.savepointName "1")), v) := by
  intro σ w v
  have hosts : σ.Hosts 0 w := ⟨rfl, rfl⟩
  have plays : Plays (fun _ => True) (pause 10) := Does.plays (.pause 10)
  have run : Session.transaction {} (pause 10) w = (.interrupted 0, v) := rfl
  obtain ⟨abandoned, ⟨es', -, after, since⟩, still⟩ := System.abandoned_run {} [] .empty []
    [.opened] {} hosts plays (.inl run) rfl
  obtain ⟨-, -, refused⟩ := still v rfl
  exact ⟨hosts, plays, run, abandoned, ⟨es', after, since⟩, refused (.savepoint "1") _ (by decide)⟩

end DataMapper
