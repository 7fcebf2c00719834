import DataMapper.Proofs.Session.Books

/-!
# Commands as runs

Whatever is made of operations — savepoints, transactions around work, their retries, limits of time
around these — is a run of turns: its operations are turns of its session, the interruption of a
transaction comes between them, and the rest happens meanwhile.

## Main definitions

* `System.Hosts` — a system on which a session works.
* `Work.Plays` — work that is a run of its session.
-/

namespace DataMapper

open Work

/-- The event is one of the session, and its raw text is of this kind. -/
def Event.IsOf (ok : String → Prop) (i : Nat) : Event → Prop
  | .opened => False
  | .turn j m => j = i ∧ ∀ sql, m.rawText? = some sql → ok sql
  | .cancelled j => j = i
  | .meanwhile _ => True

/-- The session in its place works on the workspace, which it shares with the others. -/
structure System.Hosts (σ : System) (i : Nat) (w : Workspace) : Prop where
  present : σ.sessions[i]? = some (some w.session)
  shared : σ.workspace =
    { w with session := σ.workspace.session, deadlines := σ.workspace.deadlines }

theorem System.Hosts.workspace_eq {σ : System} {i : Nat} {w : Workspace} (hosts : σ.Hosts i w) :
    { σ.workspace with session := w.session, deadlines := w.deadlines } = w := by
  rw [hosts.shared]

theorem System.Hosts.ledger_eq {σ : System} {i : Nat} {w : Workspace} (hosts : σ.Hosts i w) :
    σ.ledger = w.standing.ledger := by
  rw [System.ledger, hosts.shared]
  rfl

theorem System.Hosts.getElem?_set {σ : System} {i : Nat} {w : Workspace} (hosts : σ.Hosts i w)
    (s : Option Session) : (σ.sessions.set i s)[i]? = some s := by
  obtain ⟨inside, -⟩ := List.getElem?_eq_some_iff.1 hosts.present
  exact List.getElem?_set_self inside

/-- What a session makes of its turn is what it makes of the work. -/
theorem System.Hosts.step_turn {α : Type} {σ : System} {i : Nat} {w v : Workspace}
    (hosts : σ.Hosts i w) {m : Move} {x : Work α} {ending : Ending α}
    (performs : m.perform = timed w.deadlines x) (run : x w = (ending, v)) :
    (σ.step (.turn i m)).workspace = { v with deadlines := σ.workspace.deadlines } ∧
      (σ.step (.turn i m)).sessions =
        σ.sessions.set i (if m.leaves then none else some v.session) := by
  have performed : m.perform { σ.workspace with session := w.session } =
      (.done ending.isWhole, { v with deadlines := σ.workspace.deadlines }) := by
    simp only [performs, timed, hosts.workspace_eq, run]
  simp only [System.step, hosts.present, System.take, performed, and_self]

namespace Work

variable {α β : Type}

/-- The events lead to where the work ends. -/
structure Played (ok : String → Prop) (x : Work α) (σ : System) (i : Nat) (w : Workspace)
    (es : List Event) (ending : Ending α) (v : Workspace) : Prop where
  run : x w = (ending, v)
  own : ∀ e ∈ es, e.IsOf ok i
  hosts : (σ.run es).Hosts i v
  kept : ending.isWhole = true → v.deadlines = w.deadlines
  level : ∀ l, ending = .interrupted l → l < w.deadlines.length

/-- Wherever a session does the work, it is a run. -/
def Plays (ok : String → Prop) (x : Work α) : Prop :=
  ∀ (σ : System) (i : Nat) (w : Workspace), σ.Hosts i w →
    ∃ es ending v, Played ok x σ i w es ending v

/-- The course of work that leaves connections alone. -/
def idle : Course where
  whole := Eq
  part := Eq
  refl _ := rfl
  trans := Eq.trans
  part_of_whole := id
  whole_part := Eq.trans

theorem Ends.exists_ending {x : Work α} {w : Workspace} {Q : Except Error α → Workspace → Prop}
    {I : Standing → Prop} (h : Ends x w Q I) :
    ∃ ending v, x w = (ending, v) ∧ (ending.isWhole = true → v.deadlines = w.deadlines) ∧
      ∀ l, ending = .interrupted l → l < w.deadlines.length := by
  cases h with
  | @ended r v run kept holds =>
    refine ⟨_, v, run, fun _ => kept, ?_⟩
    rintro l ended
    cases r <;> cases ended
  | @interrupted l v run level holds =>
    refine ⟨.interrupted l, v, run, by simp [Ending.isWhole], ?_⟩
    rintro _ ⟨⟩
    exact level

/-! ## Single events -/

theorem Does.standing_eq {x : Work α} (h : Does idle x) (w : Workspace) :
    (x w).2.standing = w.standing := by
  cases h w with
  | ended run kept holds | interrupted run level holds =>
    rw [run]
    exact holds.symm

/-- The change that the work makes, for a session with limits of time. -/
def Does.aside {x : Work α} (h : Does idle x) (s : Session) (ds : List Nat) : Aside where
  change u :=
    { (x { u with session := s, deadlines := ds }).2 with
      session := u.session
      deadlines := u.deadlines }
  standing u := by
    have ledger := congrArg Standing.ledger (h.standing_eq { u with session := s, deadlines := ds })
    exact congrArg (Standing.mk u.session) ledger

/-- What leaves connections alone happens meanwhile. -/
theorem Does.plays {ok : String → Prop} {x : Work α} (h : Does idle x) : Plays ok x := by
  intro σ i w hosts
  obtain ⟨ending, v, run, kept, level⟩ := (h w).exists_ending
  have same : v.session = w.session := by
    have standing := h.standing_eq w
    rw [run] at standing
    exact congrArg Standing.session standing
  refine ⟨[.meanwhile (h.aside w.session w.deadlines)], ending, v, run, by simp [Event.IsOf],
    ⟨?_, ?_⟩, kept, level⟩
  · rw [same]
    exact hosts.present
  · simp only [System.run_cons, System.run_nil, System.step, aside, hosts.workspace_eq, run]

theorem Plays.turn {ok ok' : String → Prop} {x : Work α} (m : List Nat → Move)
    (performs : ∀ ds, (m ds).perform = timed ds x) (stays : ∀ ds, (m ds).leaves = false)
    (raw : ∀ ds sql, (m ds).rawText? = some sql → ok sql) (h : Does (operating ok') x) :
    Plays ok x := by
  intro σ i w hosts
  obtain ⟨ending, v, run, kept, level⟩ := (h w).exists_ending
  obtain ⟨workspace, sessions⟩ := hosts.step_turn (performs w.deadlines) run
  rw [stays] at sessions
  refine ⟨[.turn i (m w.deadlines)], ending, v, run, ?_, ⟨?_, ?_⟩, kept, level⟩
  · simpa [Event.IsOf] using raw w.deadlines
  · rw [System.run_cons, System.run_nil, sessions]
    exact hosts.getElem?_set _
  · rw [System.run_cons, System.run_nil, workspace]

/-! ## Parts and limits -/

namespace Plays

variable {ok : String → Prop} {x : Work α} {f : α → Work β}

theorem bind (hx : Plays ok x) (hf : ∀ a, Plays ok (f a)) : Plays ok (x >>= f) := by
  intro σ i w hosts
  obtain ⟨es, ending, v, first⟩ := hx σ i w hosts
  have run := first.run
  cases ending with
  | done a =>
    obtain ⟨es', ending', v', second⟩ := hf a _ i v first.hosts
    have kept : v.deadlines = w.deadlines := first.kept rfl
    refine ⟨es ++ es', ending', v', by simp [run, second.run], ?_, ?_, ?_, ?_⟩
    · intro e he
      rcases List.mem_append.1 he with he | he
      · exact first.own e he
      · exact second.own e he
    · rw [System.run_append]
      exact second.hosts
    · exact fun whole => (second.kept whole).trans kept
    · exact kept ▸ second.level
  | failed e =>
    exact ⟨es, .failed e, v, by simp [run], first.own, first.hosts, fun _ => first.kept rfl,
      by simp⟩
  | interrupted l =>
    refine ⟨es, .interrupted l, v, by simp [run], first.own, first.hosts,
      by simp [Ending.isWhole], ?_⟩
    rintro _ ⟨⟩
    exact first.level l rfl

theorem attempt (h : Plays ok x) : Plays ok (attempt x) := by
  intro σ i w hosts
  obtain ⟨es, ending, v, played⟩ := h σ i w hosts
  have run := played.run
  cases ending with
  | done a =>
    exact ⟨es, .done (.ok a), v, by simp [Work.attempt, run], played.own, played.hosts,
      fun _ => played.kept rfl, by simp⟩
  | failed e =>
    exact ⟨es, .done (.error e), v, by simp [Work.attempt, run], played.own, played.hosts,
      fun _ => played.kept rfl, by simp⟩
  | interrupted l =>
    refine ⟨es, .interrupted l, v, by simp [Work.attempt, run], played.own, played.hosts,
      by simp [Ending.isWhole], ?_⟩
    rintro _ ⟨⟩
    exact played.level l rfl

/-- The interruption of a transaction comes behind the operations inside it. -/
theorem marked (h : Plays ok x) : Plays ok (Session.marked x) := by
  intro σ i w hosts
  obtain ⟨es, ending, v, played⟩ := h σ i w hosts
  have run := played.run
  cases ending with
  | done a =>
    exact ⟨es, .done a, v, by simp [Session.marked, run], played.own, played.hosts, played.kept,
      by simp⟩
  | failed e =>
    exact ⟨es, .failed e, v, by simp [Session.marked, run], played.own, played.hosts, played.kept,
      by simp⟩
  | interrupted l =>
    have present := played.hosts.present
    refine ⟨es ++ [.cancelled i], .interrupted l, { v with session.abandoned := true },
      by simp [Session.marked, run], ?_, ⟨?_, ?_⟩, by simp [Ending.isWhole], ?_⟩
    · intro e he
      rcases List.mem_append.1 he with he | he
      · exact played.own e he
      · obtain rfl : e = .cancelled i := by simpa using he
        rfl
    · simp only [System.run_append, System.run_cons, System.run_nil, System.step, present]
      exact played.hosts.getElem?_set _
    · simp only [System.run_append, System.run_cons, System.run_nil, System.step, present]
      exact played.hosts.shared
    · rintro _ ⟨⟩
      exact played.level l rfl

theorem within (nanos : Nat) (h : Plays ok x) : Plays ok (within nanos x) := by
  intro σ i w hosts
  obtain ⟨es, ending, v, played⟩ :=
    h σ i { w with deadlines := (w.database.clock + nanos) :: w.deadlines }
      ⟨hosts.present, hosts.shared⟩
  have run := played.run
  have after : (σ.run es).Hosts i { v with deadlines := w.deadlines } :=
    ⟨played.hosts.present, played.hosts.shared⟩
  cases ending with
  | done a =>
    exact ⟨es, .done (some a), _, by simp [Work.within, run], played.own, after, fun _ => rfl,
      by simp⟩
  | failed e =>
    exact ⟨es, .failed e, _, by simp [Work.within, run], played.own, after, fun _ => rfl, by simp⟩
  | interrupted l =>
    have level : l < w.deadlines.length + 1 := played.level l rfl
    by_cases mine : l = w.deadlines.length
    · exact ⟨es, .done none, _, by simp [Work.within, run, mine], played.own, after, fun _ => rfl,
        by simp⟩
    · refine ⟨es, .interrupted l, _, by simp [Work.within, run, mine], played.own, after,
        fun _ => rfl, ?_⟩
      rintro _ ⟨⟩
      omega

theorem pure (a : α) : Plays ok (pure a) := Does.plays (.pure a)

theorem fail (e : Error) : Plays ok (fail e : Work α) := Does.plays (.fail e)

theorem ofExcept (e : Except Error α) : Plays ok (ofExcept e) := Does.plays (.ofExcept e)

theorem read {g : Workspace → Work α} (h : ∀ u, Plays ok (g u)) : Plays ok (Work.read >>= g) := by
  intro σ i w hosts
  obtain ⟨es, ending, v, played⟩ := h w σ i w hosts
  exact ⟨es, ending, v, played.run, played.own, played.hosts, played.kept, played.level⟩

end Plays

section

variable {ok : String → Prop} {x : Work α} (h : Plays ok x)
include h

theorem Plays.ends (w : Workspace) : Ends x w (fun _ _ => True) (fun _ => True) := by
  obtain ⟨es, ending, v, played⟩ := h ⟨w, [some w.session], []⟩ 0 w ⟨rfl, rfl⟩
  have run := played.run
  cases ending with
  | done a => exact .ended (r := .ok a) run (played.kept rfl) trivial
  | failed e => exact .ended (r := .error e) run (played.kept rfl) trivial
  | interrupted l => exact .interrupted run (played.level l rfl) trivial

/-- Work without a limit of time comes to its end. -/
theorem Plays.exists_run {w : Workspace} (free : w.deadlines = []) :
    ∃ r v, x w = (.ofExcept r, v) := by
  cases h.ends w with
  | @ended r v run => exact ⟨r, v, run⟩
  | interrupted run level => simp [free] at level

theorem Plays.acquired_le {w v : Workspace} {ending : Ending α} (run : x w = (ending, v)) :
    w.standing.ledger.acquired ≤ v.standing.ledger.acquired := by
  obtain ⟨es, _, _, played⟩ := h ⟨w, [some w.session], []⟩ 0 w ⟨rfl, rfl⟩
  obtain ⟨rfl, rfl⟩ := Prod.mk.inj (run.symm.trans played.run)
  rw [← played.hosts.ledger_eq]
  exact System.acquired_le_run ⟨w, [some w.session], []⟩ es

end

/-- A result takes no part in a turn. -/
theorem timed_bind_pure (ds : List Nat) (x : Work α) (b : β) :
    timed ds (x >>= fun _ => pure b) = timed ds x := by
  funext u
  cases run : x { u with deadlines := ds } with
  | mk ending v => cases ending <;> simp [timed, run, Ending.isWhole]

end Work

/-! ## Work around work -/

namespace Session

variable {ok : String → Prop} {α : Type} {body : Work α}

theorem plays_start (o : Sql.TransactionOptions) : Plays ok (start o) :=
  .turn (fun ds => .act ds (.begin o)) (fun ds => timed_bind_pure ds (start o) _) (fun _ => rfl)
    (by simp [Move.rawText?, Action.rawText?]) (does_start o : Does (operating ok) (start o))

/-- What the work inside has as its result takes no part in the end of the transaction. -/
theorem settle_map (outcome : Except Error α) :
    settle (outcome.map fun _ => ()) = (settle outcome >>= fun _ => pure ()) := by
  funext w
  cases held : w.session.connection with
  | none => cases outcome <;> simp [settle, Except.map, Work.read, Work.fail, held]
  | some c =>
    cases outcome with
    | ok a =>
      rcases ended : commit w with ⟨⟨⟩ | e | l, v⟩ <;>
        simp [settle, Except.map, Work.read, held, ended]
    | error e =>
      rcases ended : attempt rollback w with ⟨(e' | ⟨⟩) | e' | l, v⟩ <;>
        simp [settle, Except.map, Work.read, Work.fail, warn, logEntry, modifyDatabase, Work.modify,
          held, ended]

theorem plays_settle (outcome : Except Error α) : Plays ok (settle outcome) :=
  .turn (fun ds => .settle ds (outcome.map fun _ => ()))
    (fun ds => (congrArg (timed ds) (settle_map outcome)).trans (timed_bind_pure ds _ _))
    (fun _ => rfl) (by simp [Move.rawText?])
    (does_settle outcome : Does (operating ok) (settle outcome))

theorem plays_savepointCommand {command name : String} {a : Action} (silent : a.rawText? = none)
    (performs : a.perform = (savepointCommand command name >>= fun _ => pure Answer.nothing)) :
    Plays ok (savepointCommand command name) := by
  have does : Does (operating fun _ => True) (savepointCommand command name) :=
    does_savepointCommand trivial
  refine .turn (fun ds => .act ds a) (fun ds => ?_) (fun _ => rfl) ?_ does
  · exact (congrArg (timed ds) performs).trans (timed_bind_pure ds _ _)
  · simp [Move.rawText?, silent]

theorem does_nextSavepoint {C : Course} : Does C nextSavepoint :=
  .read fun _ => .bind (.modify (fun _ => rfl) fun _ => rfl) fun _ => .pure _

theorem does_logEntry {C : Course} (level : LogLevel) (message : String)
    (fields : List (String × LogValue)) : Does C (logEntry level message fields) :=
  .modify (fun _ => rfl) fun _ => rfl

theorem plays_inSavepoint (h : Plays ok body) : Plays ok (inSavepoint body) := by
  refine .bind does_nextSavepoint.plays fun name => ?_
  refine .bind (plays_savepointCommand (a := .savepoint name) rfl rfl) fun _ => ?_
  refine .bind h.attempt fun outcome => ?_
  cases outcome with
  | ok => exact .bind (plays_savepointCommand (a := .release name) rfl rfl) fun _ => .pure _
  | error e =>
    refine .bind (plays_savepointCommand (a := .rollbackTo name) rfl rfl).attempt fun undone => ?_
    cases undone with
    | ok => exact .fail e
    | error e' => exact .bind (does_logEntry _ _ _).plays fun _ => .fail e

theorem plays_conclude (h : Plays ok body) : Plays ok (conclude body) :=
  (h.attempt.bind plays_settle).marked

theorem plays_transaction (o : Sql.TransactionOptions) (h : Plays ok body) :
    Plays ok (transaction o body) :=
  .bind (plays_start o) fun _ => plays_conclude h

/-- The attempts follow one another, with pauses between them. -/
theorem plays_attempts (o : Sql.TransactionOptions) (h : Plays ok body) (number runs left : Nat) :
    Plays ok (attempts o body number runs left) := by
  induction left using Nat.strongRecOn generalizing number runs with
  | ind left ih =>
    unfold attempts
    refine .bind (plays_start o).attempt fun begun => ?_
    -- Whether the work was run or not, the outcome decides what follows.
    cases begun <;> refine .bind ?_ fun outcome => ?_
    case error.refine_1 e => exact .pure _
    case ok.refine_1 => exact (plays_conclude h).attempt
    all_goals
      cases outcome with
      | ok a => exact .pure _
      | error e =>
        dsimp only
        split
        · exact .fail e
        · cases left with
          | zero => exact .bind (does_logEntry _ _ _).plays fun _ => .fail _
          | succ left =>
            refine .bind (does_logEntry _ _ _).plays fun _ => ?_
            refine .bind Does.retryPause.plays fun _ => .bind (Does.pause _).plays fun _ => ?_
            exact ih left (by simp) _ _

theorem plays_retry (o : Sql.TransactionOptions) (h : Plays ok body) : Plays ok (retry o body) :=
  .read fun _ => plays_attempts o h _ _ _

end Session

/-! ## Commands -/

namespace Work

variable {ok : String → Prop}

theorem does_note {C : Course} (command : String) (name : Option String)
    (result : Option (Except Error Answer)) : Does C (note command name result) :=
  .modify (fun _ => rfl) fun _ => rfl

theorem Plays.noted {x : Work Answer} (command : String) (name : Option String)
    (h : Plays ok x) : Plays ok (noted command name x) :=
  .bind h.attempt fun result => .bind (does_note command name _).plays fun _ =>
    .bind (.ofExcept result) fun _ => .pure _

theorem Plays.limited {x : Work Nat} (limit : Option Nat) (h : Plays ok x) :
    Plays ok (limited limit x) := by
  cases limit with
  | none => exact .bind h fun _ => .pure _
  | some nanos =>
    refine .bind (h.within nanos) fun result => ?_
    cases result <;> exact .pure _

end Work

namespace Command

mutual

/-- The raw texts in a command. -/
def rawTexts : Command → List String
  | action a => a.rawText?.toList
  | caught c => c.rawTexts
  | inSavepoint body | transaction _ _ body | retry _ _ body => rawTextsAll body

def rawTextsAll : List Command → List String
  | [] => []
  | c :: cs => c.rawTexts ++ rawTextsAll cs

end

variable {ok : String → Prop}

/-- Time passes while nothing is asked of a session. -/
theorem plays_action {a : Action} (h : ∀ sql, a.rawText? = some sql → ok sql) :
    Plays ok a.perform := by
  by_cases sleeps : ∃ nanos, a = .sleep nanos
  · obtain ⟨nanos, rfl⟩ := sleeps
    exact .bind (Does.pause nanos).plays fun _ => .pure _
  · exact .turn (fun ds => .act ds a) (fun _ => rfl) (fun _ => rfl) (fun _ => h) a.does_perform

mutual

/-- Every command is a run. -/
theorem plays_perform (c : Command) (h : ∀ sql ∈ c.rawTexts, ok sql) : Plays ok c.perform := by
  cases c with
  | action a =>
    unfold perform
    refine (plays_action fun sql raw => ?_).noted _ _
    exact h sql (by simp [rawTexts, raw])
  | caught c =>
    unfold perform
    exact .bind (plays_perform c (by simpa [rawTexts] using h)).attempt fun _ => .pure _
  | inSavepoint body =>
    unfold perform
    have inside := plays_performAll body (by simpa [rawTexts] using h)
    exact (Plays.bind (Session.plays_inSavepoint inside) fun _ => .pure _).noted _ _
  | transaction o limit body =>
    unfold perform
    have inside := plays_performAll body (by simpa [rawTexts] using h)
    have whole := Plays.bind (Session.plays_transaction o inside) fun _ => .pure 1
    exact (whole.limited limit).noted _ _
  | retry o limit body =>
    unfold perform
    have inside := plays_performAll body (by simpa [rawTexts] using h)
    have whole := Plays.bind (Session.plays_retry o inside) fun r => .pure r.2
    exact (whole.limited limit).noted _ _

theorem plays_performAll (cs : List Command) (h : ∀ sql ∈ rawTextsAll cs, ok sql) :
    Plays ok (performAll cs) := by
  cases cs with
  | nil => exact .pure ()
  | cons c cs =>
    unfold performAll
    refine .bind (plays_perform c fun sql raw => h sql ?_) fun _ =>
      plays_performAll cs fun sql raw => h sql ?_
    · simp [rawTextsAll, raw]
    · simp [rawTextsAll, raw]

end

theorem rawTextsAll_map_caught (cs : List Command) :
    rawTextsAll (cs.map caught) = rawTextsAll cs := by
  induction cs with
  | nil => rfl
  | cons c cs ih => simp [rawTextsAll, rawTexts, ih]

theorem performAll_caught_ne_failed (cs : List Command) (w : Workspace) (e : Error) :
    (performAll (cs.map caught) w).1 ≠ .failed e := by
  induction cs generalizing w with
  | nil => simp [performAll]
  | cons c cs ih =>
    rw [List.map_cons, performAll, perform]
    cases run : c.perform w with
    | mk ending v => cases ending <;> simp [attempt, run, ih]

/-- A session of commands is a run at whose end the session has gone away. -/
theorem session_isRun (config : Config) (rules : List Rule) (store : TextStore)
    (records : List (String × Record)) (draws : List Nat) (commands : List Command)
    (canSend : Bool) :
    let σ := System.start config rules store records draws
    ∃ es v, session commands canSend σ.workspace = (.done (), v) ∧
      (∀ e ∈ es, ∀ sql, e.rawText? = some sql → sql ∈ rawTextsAll commands) ∧
      (σ.run (.opened :: es)).sessions[0]? = some none ∧
      (σ.run (.opened :: es)).workspace.database = v.database := by
  intro σ
  have opened : (σ.step .opened).Hosts 0 σ.workspace := ⟨rfl, rfl⟩
  have texts (sql : String) (h : sql ∈ rawTextsAll (commands.map caught)) :
      sql ∈ rawTextsAll commands := rawTextsAll_map_caught commands ▸ h
  obtain ⟨es, ending, v, played⟩ := plays_performAll (commands.map caught) texts _ 0 _ opened
  have run := played.run
  cases ending with
  | failed e => exact absurd (congrArg Prod.fst run) (performAll_caught_ne_failed commands _ e)
  | interrupted l => exact absurd (played.level l rfl) (Nat.not_lt_zero l)
  | done =>
    have free : v.deadlines = [] := played.kept rfl
    obtain ⟨v', left⟩ : ∃ v', Session.leave canSend v = (.done (), v') := by
      cases Session.succeeds_leave (w := v) (I := fun _ => True) canSend (by simp) with
      | @ended r v' run _ holds =>
        cases r with
        | ok => exact ⟨v', run⟩
        | error e => exact holds.elim
      | interrupted run level holds => simp [free] at level
    have performs : (Move.leave canSend).perform = timed v.deadlines (Session.leave canSend) := by
      rw [free]
      rfl
    obtain ⟨workspace, sessions⟩ := played.hosts.step_turn performs left
    have done : ∃ v'', session commands canSend σ.workspace = (.done (), v'') ∧
        v''.database = v'.database := by
      refine ⟨(note "end" none none v').2, ?_, rfl⟩
      simp only [session, bind_apply, run, left]
      rfl
    obtain ⟨v'', ended, same⟩ := done
    refine ⟨es ++ [.turn 0 (.leave canSend)], v'', ended, ?_, ?_, ?_⟩
    · intro e he sql raw
      rcases List.mem_append.1 he with he | he
      · have own := played.own e he
        cases e with
        | turn j m => exact own.2 sql raw
        | opened | cancelled | meanwhile => cases raw
      · obtain rfl : e = .turn 0 (.leave canSend) := by simpa using he
        cases raw
    · rw [System.run_cons, System.run_append, System.run_cons, System.run_nil, sessions]
      exact played.hosts.getElem?_set _
    · rw [System.run_cons, System.run_append, System.run_cons, System.run_nil, workspace, same]

/-- Whatever becomes of a session of commands, it puts no connection away twice. -/
theorem count_putAway_session_le_one (config : Config) (rules : List Rule) (store : TextStore)
    (records : List (String × Record)) (draws : List Nat) (commands : List Command)
    (canSend : Bool) (c : Nat) :
    let server := (session commands canSend
      (System.start config rules store records draws).workspace).2.database.server
    server.released.count c + server.discarded.count c ≤ 1 := by
  obtain ⟨es, v, run, -, -, same⟩ :=
    session_isRun config rules store records draws commands canSend
  have count := ((Books.start config rules store records draws).run (.opened :: es)).count_le_one c
  simp only [System.ledger, same, Server.ledger] at count
  simp only [run]
  omega

end Command

end DataMapper
