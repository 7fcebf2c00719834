import DataMapper.Session.Command

/-!
# How work ends

Work comes to an end with a result or an error, unless a limit of time interrupts it while it waits.
What holds then is put together from what holds at the ends of its parts, and wherever it may be
interrupted. Of the workspace only the session and its connections matter here, its `Standing`.

## Main definitions

* `Ledger`, `Standing` — how connections and a session stand.
* `Work.Ends`, `Work.Succeeds` — what holds at the end of work, or where it is interrupted.
* `Course`, `Work.Does` — how work changes the standing, for relations that compose.
-/

namespace DataMapper

/-- The server has answered the statement with a failure. -/
def SentStatement.failed (st : SentStatement) : Bool :=
  match st.reply with
  | some (.failure _) => true
  | _ => false

/-! ## Standing -/

/-- What a server has on record about its connections. -/
structure Ledger where
  sent : List SentStatement
  acquired : Nat
  released : List Nat
  discarded : List Nat

namespace Ledger

variable (l : Ledger)

def send (statements : List SentStatement) : Ledger := { l with sent := l.sent ++ statements }

def acquire : Ledger := { l with acquired := l.acquired + 1 }

def release (c : Nat) : Ledger := { l with released := c :: l.released }

def discard (c : Nat) : Ledger := { l with discarded := c :: l.discarded }

@[simp] theorem send_nil : l.send [] = l := by simp [send]

@[simp] theorem send_send (a b : List SentStatement) : (l.send a).send b = l.send (a ++ b) := by
  simp [send]

end Ledger

def Server.ledger (s : Server) : Ledger := ⟨s.sent, s.acquired, s.released, s.discarded⟩

/-- A session and the connections of the server. -/
structure Standing where
  session : Session
  ledger : Ledger

def Workspace.standing (w : Workspace) : Standing := ⟨w.session, w.database.server.ledger⟩

theorem Workspace.standing_of_session {w : Workspace} {k : Option Nat} {b : Bool}
    (h : w.session = ⟨k, b⟩) : w.standing = ⟨⟨k, b⟩, w.standing.ledger⟩ := by
  rw [← h]
  rfl

def Ending.ofExcept {α : Type} : Except Error α → Ending α
  | .ok a => .done a
  | .error e => .failed e

theorem Ending.ofExcept_inj {α : Type} {r r' : Except Error α}
    (h : ofExcept r = ofExcept r') : r = r' := by
  cases r <;> cases r' <;> cases h <;> rfl

namespace Work

/-! ## Ends -/

/-- The work comes to an end, of which one thing holds, or a limit of time interrupts it, and
another thing holds. -/
inductive Ends {α : Type} (x : Work α) (w : Workspace) (Q : Except Error α → Workspace → Prop)
    (I : Standing → Prop) : Prop where
  | ended {r : Except Error α} {v : Workspace} (run : x w = (.ofExcept r, v))
      (kept : v.deadlines = w.deadlines) (holds : Q r v)
  | interrupted {l : Nat} {v : Workspace} (run : x w = (.interrupted l, v))
      (level : l < w.deadlines.length) (holds : I v.standing)

/-- The work comes to an end with a result, of which this holds, or it is interrupted. -/
def Succeeds {α : Type} (x : Work α) (w : Workspace) (P : α → Workspace → Prop)
    (I : Standing → Prop) : Prop :=
  Ends x w (fun r w' => match r with | .ok a => P a w' | .error _ => False) I

section

variable {α β : Type} {x : Work α} {f : α → Work β} {w : Workspace} {I : Standing → Prop}

/-- What holds at the end of work, holds of its result. -/
theorem Ends.of_run {Q : Except Error α → Workspace → Prop} (h : Ends x w Q I)
    {r : Except Error α} {v : Workspace} (run : x w = (.ofExcept r, v)) : Q r v := by
  cases h with
  | ended run' _ holds =>
    rw [run] at run'
    obtain ⟨same, rfl⟩ := Prod.mk.inj run'
    exact Ending.ofExcept_inj same ▸ holds
  | interrupted run' =>
    rw [run] at run'
    cases r <;> cases run'

theorem Ends.of_ending {Q : Except Error α → Workspace → Prop} (h : Ends x w Q I)
    {r : Except Error α} (ended : (x w).1 = .ofExcept r) : Q r (x w).2 :=
  h.of_run (Prod.ext ended rfl)

/-- Where work is interrupted, what holds then holds. -/
theorem Ends.of_interrupted {Q : Except Error α → Workspace → Prop} (h : Ends x w Q I)
    {l : Nat} {v : Workspace} (run : x w = (.interrupted l, v)) : I v.standing := by
  cases h with
  | @ended r _ run' =>
    rw [run] at run'
    cases r <;> cases run'
  | interrupted run' _ holds =>
    rw [run] at run'
    obtain ⟨-, rfl⟩ := Prod.mk.inj run'
    exact holds

/-- The end, together with the run that leads to it. -/
theorem Ends.with_run {Q : Except Error α → Workspace → Prop} (h : Ends x w Q I) :
    Ends x w (fun r v => x w = (.ofExcept r, v) ∧ Q r v) I := by
  cases h with
  | ended run kept holds => exact .ended run kept ⟨run, holds⟩
  | interrupted run level holds => exact .interrupted run level holds

/-- What is known of the end in two ways, is known of the same end. -/
theorem Ends.and {P Q : Except Error α → Workspace → Prop} {J : Standing → Prop}
    (h : Ends x w P I) (g : Ends x w Q J) :
    Ends x w (fun r v => P r v ∧ Q r v) (fun s => I s ∧ J s) := by
  cases h with
  | ended run kept holds => exact .ended run kept ⟨holds, g.of_run run⟩
  | interrupted run level holds => exact .interrupted run level ⟨holds, g.of_interrupted run⟩

theorem Ends.congr {y : Work α} {Q : Except Error α → Workspace → Prop} (h : Ends x w Q I)
    (same : y w = x w) : Ends y w Q I := by
  cases h with
  | ended run kept holds => exact .ended (same.trans run) kept holds
  | interrupted run level holds => exact .interrupted (same.trans run) level holds

theorem bind_eq_ofExcept {r : Except Error β} {v : Workspace}
    (run : (x >>= f) w = (.ofExcept r, v)) :
    (∃ e, x w = (.failed e, v) ∧ r = .error e) ∨
      ∃ a w', x w = (.done a, w') ∧ f a w' = (.ofExcept r, v) := by
  rw [bind_apply] at run
  generalize x w = first at run ⊢
  rcases first with ⟨a | e | l, w'⟩
  · exact .inr ⟨a, w', rfl, run⟩
  · cases r <;> cases run
    exact .inl ⟨e, rfl, rfl⟩
  · cases r <;> cases run

/-- Work that succeeds has succeeded in each of its parts. -/
theorem exists_of_bind {b : β} {v : Workspace} (run : (x >>= f) w = (.done b, v)) :
    ∃ a u, x w = (.done a, u) ∧ f a u = (.done b, v) := by
  obtain ⟨e, -, failed⟩ | succeeded := bind_eq_ofExcept (r := .ok b) run
  · cases failed
  · exact succeeded

theorem attempt_eq_done {r : Except Error α} {v : Workspace} :
    attempt x w = (.done r, v) ↔ x w = (.ofExcept r, v) := by
  unfold attempt
  generalize x w = first
  rcases first with ⟨a | e | l, w'⟩ <;> cases r <;> simp [Ending.ofExcept]

theorem attempt_ne_failed {e : Error} {v : Workspace} : attempt x w ≠ (.failed e, v) := by
  unfold attempt
  generalize x w = first
  rcases first with ⟨a | e | l, w'⟩ <;> simp

theorem Ends.mono {P Q : Except Error α → Workspace → Prop} (h : Ends x w P I)
    (le : ∀ r w', P r w' → Q r w') : Ends x w Q I := by
  cases h with
  | ended run kept holds => exact .ended run kept (le _ _ holds)
  | interrupted run level holds => exact .interrupted run level holds

theorem Ends.interrupted_mono {Q : Except Error α → Workspace → Prop} {J : Standing → Prop}
    (h : Ends x w Q I) (le : ∀ s, I s → J s) : Ends x w Q J := by
  cases h with
  | ended run kept holds => exact .ended run kept holds
  | interrupted run level holds => exact .interrupted run level (le _ holds)

theorem Ends.bind {P : Except Error α → Workspace → Prop} {Q : Except Error β → Workspace → Prop}
    (h : Ends x w P I) (next : ∀ a w', P (.ok a) w' → Ends (f a) w' Q I)
    (stop : ∀ e w', P (.error e) w' → Q (.error e) w') : Ends (x >>= f) w Q I := by
  cases h with
  | interrupted run level holds => exact .interrupted (by simp [run]) level holds
  | @ended r w' run kept holds =>
    cases r with
    | error e =>
      exact .ended (r := .error e) (by simp [run, Ending.ofExcept]) kept (stop e w' holds)
    | ok a =>
      cases next a w' holds with
      | ended run' kept' holds' =>
        exact .ended (by simp [run, Ending.ofExcept, run']) (kept'.trans kept) holds'
      | interrupted run' level holds' =>
        exact .interrupted (by simp [run, Ending.ofExcept, run']) (kept ▸ level) holds'

/-- Behind work that does not fail. -/
theorem Ends.after {P : α → Workspace → Prop} {Q : Except Error β → Workspace → Prop}
    (h : Succeeds x w P I) (next : ∀ a w', P a w' → Ends (f a) w' Q I) : Ends (x >>= f) w Q I :=
  h.bind next fun _ _ never => never.elim

theorem Succeeds.seq {P : α → Workspace → Prop} {Q : β → Workspace → Prop} (h : Succeeds x w P I)
    (next : ∀ a w', P a w' → Succeeds (f a) w' Q I) : Succeeds (x >>= f) w Q I :=
  Ends.after h next

theorem Succeeds.ends {P : α → Workspace → Prop} {Q : Except Error α → Workspace → Prop}
    (h : Succeeds x w P I) (le : ∀ a w', P a w' → Q (.ok a) w') : Ends x w Q I := by
  refine Ends.mono h ?_
  rintro (e | a) w' holds
  · exact holds.elim
  · exact le a w' holds

theorem Succeeds.mono {P Q : α → Workspace → Prop} (h : Succeeds x w P I)
    (le : ∀ a w', P a w' → Q a w') : Succeeds x w Q I :=
  h.ends le

theorem Ends.attempt {P : Except Error α → Workspace → Prop} (h : Ends x w P I) :
    Succeeds (attempt x) w P I := by
  cases h with
  | @ended r w' run kept holds =>
    refine .ended (r := .ok r) (v := w') ?_ kept holds
    cases r <;> simp [Work.attempt, run, Ending.ofExcept]
  | interrupted run level holds =>
    exact .interrupted (by simp [Work.attempt, run]) level holds

theorem ends_read {f : Workspace → Work β} {Q : Except Error β → Workspace → Prop}
    (h : Ends (f w) w Q I) : Ends (read >>= f) w Q I := by
  cases h with
  | ended run kept holds => exact .ended run kept holds
  | interrupted run level holds => exact .interrupted run level holds

theorem succeeds_read {f : Workspace → Work β} {Q : β → Workspace → Prop}
    (h : Succeeds (f w) w Q I) : Succeeds (read >>= f) w Q I :=
  ends_read h

theorem ends_config {f : Config → Work β} {Q : Except Error β → Workspace → Prop}
    (h : Ends (f w.database.config) w Q I) : Ends (config >>= f) w Q I := by
  cases h with
  | ended run kept holds => exact .ended run kept holds
  | interrupted run level holds => exact .interrupted run level holds

theorem succeeds_pure (a : α) : Succeeds (pure a) w (fun b w' => b = a ∧ w' = w) I :=
  .ended (r := .ok a) rfl rfl ⟨rfl, rfl⟩

theorem ends_ofExcept (e : Except Error α) :
    Ends (ofExcept e) w (fun r w' => r = e ∧ w' = w) I := by
  refine .ended (r := e) (v := w) ?_ rfl ⟨rfl, rfl⟩
  cases e <;> rfl

theorem ends_fail (e : Error) :
    Ends (fail e : Work α) w (fun r w' => r = .error e ∧ w' = w) I :=
  ends_ofExcept (.error e)

theorem succeeds_modify {g : Workspace → Workspace} (kept : (g w).deadlines = w.deadlines) :
    Succeeds (modify g) w (fun _ w' => w' = g w) I :=
  .ended (r := .ok ()) rfl kept rfl

theorem expiredLevel_lt (now : Nat) {ds : List Nat} (h : ds ≠ []) :
    expiredLevel now ds < ds.length := by
  induction ds with
  | nil => exact absurd rfl h
  | cons d ds ih =>
    unfold expiredLevel
    split
    · simp
    · cases ds with
      | nil => simp [expiredLevel]
      | cons e es => exact Nat.lt_trans (ih (by simp)) (by simp)

/-- Only waiting is interrupted. -/
theorem succeeds_pause (nanos : Nat) (cut : I w.standing) :
    Succeeds (pause nanos) w (fun _ w' => w'.standing = w.standing) I := by
  by_cases whole : nanos = 0 ∨ w.database.clock + nanos ≤
      w.deadlines.foldl min (w.database.clock + nanos)
  · exact .ended (r := .ok ()) (v := w.atTime (w.database.clock + nanos))
      (by simp [pause, whole, Ending.ofExcept]) rfl rfl
  · have run : pause nanos w = (.interrupted (expiredLevel (max w.database.clock
        (w.deadlines.foldl min (w.database.clock + nanos))) w.deadlines), w.atTime (max
        w.database.clock (w.deadlines.foldl min (w.database.clock + nanos)))) := by
      simp [pause, whole]
    refine .interrupted run (expiredLevel_lt _ ?_) cut
    intro free
    simp [free] at whole

/-- What is drawn lies between the two numbers, and only what is left to be drawn changes. -/
theorem draw_eq (least most : Nat) (w : Workspace) :
    ∃ n draws, draw least most w = (.done n, { w with database.draws := draws }) ∧
      least ≤ n ∧ n ≤ max least most := by
  cases left : w.database.draws with
  | nil =>
    have drawn : draw least most w = (.done least, w) := by
      simp only [draw, read, bind_apply, left, pure_apply]
    exact ⟨least, w.database.draws, drawn, Nat.le_refl _, Nat.le_max_left _ _⟩
  | cons n draws =>
    have part : n % (most - least + 1) < most - least + 1 := Nat.mod_lt _ (Nat.succ_pos _)
    refine ⟨least + n % (most - least + 1), draws, ?_, by omega, by omega⟩
    simp [draw, read, left, modifyDatabase, modify]

theorem succeeds_draw (least most : Nat) :
    Succeeds (draw least most) w (fun _ w' => w'.standing = w.standing) I := by
  obtain ⟨n, draws, drawn, -⟩ := draw_eq least most w
  exact .ended (r := .ok n) drawn rfl rfl

theorem succeeds_retryPause :
    Succeeds Session.retryPause w (fun _ w' => w'.standing = w.standing) I := by
  refine succeeds_read (.seq (succeeds_draw _ _) fun _ _ same => ?_)
  refine (succeeds_pure _).mono ?_
  rintro _ _ ⟨-, rfl⟩
  exact same

theorem succeeds_report (r : Report) :
    Succeeds (report r) w (fun _ w' => w'.standing = w.standing) I := by
  refine (succeeds_modify (by rfl)).mono ?_
  rintro _ _ rfl
  rfl

theorem succeeds_warn (message : String) (fields : List (String × LogValue)) :
    Succeeds (warn message fields) w (fun _ w' => w'.standing = w.standing) I := by
  refine (succeeds_modify (by rfl)).mono ?_
  rintro _ _ rfl
  rfl

theorem succeeds_setSession (s : Session) :
    Succeeds (setSession s) w (fun _ w' => w'.standing = ⟨s, w.standing.ledger⟩) I := by
  refine (succeeds_modify (by rfl)).mono ?_
  rintro _ _ rfl
  rfl

/-! ## Statements -/

theorem ledger_send {s s' : Server} {c : Nat} {sql : String} {parameters : List Value}
    {reply : Option Reply} (h : s.send c sql parameters = (reply, s')) :
    s'.ledger = s.ledger.send [⟨c, sql, parameters, reply⟩] := by
  cases h
  rfl

/-- The statement is on record with its reply, and the reply is the result. -/
theorem succeeds_send (c : Nat) (sql : String) (parameters : List Value)
    (cut : ∀ reply, I ⟨w.session, w.standing.ledger.send [⟨c, sql, parameters, reply⟩]⟩) :
    Succeeds (send c sql parameters) w (fun reply w' =>
      w'.standing = ⟨w.session, w.standing.ledger.send [⟨c, sql, parameters, reply⟩]⟩) I := by
  unfold send
  refine succeeds_read ?_
  obtain ⟨reply, server, answered⟩ :
      ∃ reply server, w.database.server.send c sql parameters = (reply, server) := ⟨_, _, rfl⟩
  simp only [answered]
  refine .seq (succeeds_modify (by rfl)) ?_
  intro _ w₁ received
  have stands : w₁.standing =
      ⟨w.session, w.standing.ledger.send [⟨c, sql, parameters, reply⟩]⟩ := by
    rw [received]
    exact congrArg (Standing.mk _) (ledger_send answered)
  refine .seq (succeeds_pause _ (stands ▸ cut reply)) ?_
  intro _ w₂ same
  refine (succeeds_pure reply).mono ?_
  rintro _ _ ⟨rfl, rfl⟩
  exact same.trans stands

/-- Only the reply decides on the result. -/
theorem ends_run (c : Nat) (sql : String) (parameters : List Value) (tag : Option String)
    (interpret : Option Reply → Except Error α) (summary : α → Outcome)
    (cut : ∀ reply, I ⟨w.session, w.standing.ledger.send [⟨c, sql, parameters, reply⟩]⟩) :
    Ends (run c sql parameters tag interpret summary) w (fun r w' =>
      ∃ reply, r = interpret reply ∧
        w'.standing = ⟨w.session, w.standing.ledger.send [⟨c, sql, parameters, reply⟩]⟩) I := by
  unfold run
  refine ends_read ?_
  refine .after (succeeds_send c sql parameters cut) ?_
  intro reply w₁ stands
  refine ends_read ?_
  refine .after (succeeds_report _) ?_
  intro _ w₂ same
  have done {w₃ : Workspace} (same₃ : w₃.standing = w₂.standing) :
      Ends (ofExcept (interpret reply)) w₃ (fun r w' => ∃ reply, r = interpret reply ∧
        w'.standing = ⟨w.session, w.standing.ledger.send [⟨c, sql, parameters, reply⟩]⟩) I := by
    refine (ends_ofExcept _).mono ?_
    rintro _ _ ⟨rfl, rfl⟩
    exact ⟨reply, rfl, (same₃.trans same).trans stands⟩
  refine ends_config ?_
  dsimp only
  split
  · refine .after (succeeds_report _) ?_
    intro _ w₃ same₃
    exact done same₃
  · exact done rfl

/-- A statement without a result fails exactly where the server answers with a failure. -/
theorem failed_eq (st : SentStatement) : st.failed = !(Reply.completion st.reply).isOk := by
  obtain ⟨c, sql, parameters, reply⟩ := st
  match reply with
  | none | some (.rows _) | some (.affected _) | some (.failure _) => rfl

theorem failed_of_error {st : SentStatement} {e : Error}
    (h : .error e = Reply.completion st.reply) : st.failed = true := by
  rw [failed_eq, ← h]
  rfl

theorem not_failed_of_ok {st : SentStatement} (h : .ok () = Reply.completion st.reply) :
    st.failed = false := by
  rw [failed_eq, ← h]
  rfl

theorem ends_runBatch (c : Nat) (sql : String) (tag : Option String)
    (cut : ∀ st : SentStatement, st.connection = c → st.sql = sql →
      I ⟨w.session, w.standing.ledger.send [st]⟩) :
    Ends (runBatch c sql tag) w (fun r w' =>
      ∃ st : SentStatement, st.connection = c ∧ st.sql = sql ∧ r = Reply.completion st.reply ∧
        w'.standing = ⟨w.session, w.standing.ledger.send [st]⟩) I := by
  refine (ends_run c sql [] tag _ _ fun reply => cut ⟨c, sql, [], reply⟩ rfl rfl).mono ?_
  rintro _ w' ⟨reply, rfl, stands⟩
  exact ⟨⟨c, sql, [], reply⟩, rfl, rfl, rfl, stands⟩

end

end Work

/-! ## Courses -/

/-- How work may change the standing: in the whole, and in part where it is interrupted. Doing
nothing is a course, and so is doing one thing after another. -/
structure Course where
  whole : Standing → Standing → Prop
  part : Standing → Standing → Prop
  refl : ∀ s, whole s s
  trans : ∀ {s t u}, whole s t → whole t u → whole s u
  part_of_whole : ∀ {s t}, whole s t → part s t
  whole_part : ∀ {s t u}, whole s t → part t u → part s u

namespace Work

variable {α β : Type} {x : Work α} {f : α → Work β}

/-- The work changes the standing as the course says. -/
def Does (C : Course) (x : Work α) : Prop :=
  ∀ w, Ends x w (fun _ w' => C.whole w.standing w'.standing) (C.part w.standing)

namespace Does

variable {C : Course}

theorem attempt (h : Does C x) : Does C (attempt x) :=
  fun w => (h w).attempt.ends fun _ _ holds => holds

theorem read {f : Workspace → Work β} (h : ∀ w, Does C (f w)) : Does C (Work.read >>= f) :=
  fun w => ends_read (h w w)

theorem ofExcept (e : Except Error α) : Does C (ofExcept e) := by
  intro w
  refine (ends_ofExcept e).mono ?_
  rintro _ _ ⟨-, rfl⟩
  exact C.refl _

theorem pure (a : α) : Does C (pure a) := ofExcept (.ok a)

theorem fail (e : Error) : Does C (fail e : Work α) := ofExcept (.error e)

theorem bind (hx : Does C x) (hf : ∀ a, Does C (f a)) : Does C (x >>= f) := by
  intro w
  refine (hx w).bind ?_ fun _ _ holds => holds
  intro a w' first
  exact ((hf a w').mono fun _ _ => C.trans first).interrupted_mono fun _ => C.whole_part first

/-- What comes behind a value that is computed may use how it was computed. -/
theorem ofExcept_bind {e : Except Error α} (hf : ∀ a, e = .ok a → Does C (f a)) :
    Does C (Work.ofExcept e >>= f) := by
  intro w
  refine (ends_ofExcept e).bind ?_ ?_
  · rintro a w' ⟨computed, same⟩
    rw [same]
    exact hf a computed.symm w
  · rintro e _ ⟨-, rfl⟩
    exact C.refl _

theorem modify {g : Workspace → Workspace} (deadlines : ∀ w, (g w).deadlines = w.deadlines)
    (standing : ∀ w, (g w).standing = w.standing) : Does C (modify g) := by
  intro w
  refine (succeeds_modify (deadlines w)).ends ?_
  rintro _ _ rfl
  rw [standing]
  exact C.refl _

/-- Work that leaves the standing as it is follows every course. -/
theorem of_standing_eq
    (h : ∀ w, Succeeds x w (fun _ w' => w'.standing = w.standing) (C.part w.standing)) :
    Does C x := by
  intro w
  refine (h w).ends ?_
  intro _ w' same
  rw [same]
  exact C.refl _

theorem pause (nanos : Nat) : Does C (pause nanos) :=
  of_standing_eq fun _ => succeeds_pause nanos (C.part_of_whole (C.refl _))

theorem retryPause : Does C Session.retryPause := of_standing_eq fun _ => succeeds_retryPause

theorem mapM {γ : Type} {g : γ → Work α} (each : ∀ a, Does C (g a)) (as : List γ) :
    Does C (as.mapM g) := by
  have loop (bs : List α) : Does C (List.mapM.loop g as bs) := by
    induction as generalizing bs with
    | nil => exact pure _
    | cons a as ih => exact bind (each a) fun b => ih (b :: bs)
  exact loop []

end Does

end Work

end DataMapper
