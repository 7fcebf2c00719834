import DataMapper.Proofs.Session.Composition
import DataMapper.Proofs.Session.Outcomes

/-!
# Validation comes first

Arguments are found invalid before an operation has anything to do with a connection. From there on
operations fail with errors of other kinds, unless the server answers with an error of validation
itself.

## Main definitions

* `Server.FailsOnly` — the script has no failures but such.

## Main statements

* `Composed.of_run` — composed work fails with nothing else.
* `Action.eq_of_validation` — an operation that fails validation leaves everything as it was.
-/

namespace DataMapper

open Work

variable {fails : Error → Prop}

/-! ## The script -/

namespace Rule

variable {sql : String} {rules : List Rule} {rule : Rule}

/-- Every answer is that of a rule. -/
theorem exists_of_answer {reply : Reply} (h : (answer sql rules).1 = some reply) :
    ∃ rule ∈ rules, rule.reply = reply := by
  induction rules with
  | nil => cases h
  | cons first rules ih =>
    unfold answer at h
    split at h
    · cases h
      exact ⟨first, by simp, rfl⟩
    · obtain ⟨rule, member, same⟩ := ih h
      exact ⟨rule, by simp [member], same⟩

/-- A rule is used up, but its answer stays the same. -/
theorem exists_of_mem_answer (h : rule ∈ (answer sql rules).2) :
    ∃ before ∈ rules, before.reply = rule.reply := by
  induction rules with
  | nil => cases h
  | cons first rules ih =>
    unfold answer at h
    split at h
    · rcases List.mem_cons.1 h with rfl | member
      · exact ⟨first, by simp, rfl⟩
      · exact ⟨rule, by simp [member], rfl⟩
    · rcases List.mem_cons.1 h with rfl | member
      · exact ⟨rule, by simp, rfl⟩
      · obtain ⟨before, old, same⟩ := ih member
        exact ⟨before, by simp [old], same⟩

end Rule

namespace Server

variable {s : Server}

/-- The failures that the server answers with are such errors. -/
def FailsOnly (fails : Error → Prop) (s : Server) : Prop :=
  ∀ rule ∈ s.rules, ∀ e, rule.reply = .failure e → fails e

theorem FailsOnly.of_rules {s' : Server} (h : s.FailsOnly fails) (same : s'.rules = s.rules) :
    s'.FailsOnly fails := by
  intro rule member
  exact h rule (same ▸ member)

theorem FailsOnly.of_reply (h : s.FailsOnly fails) {c : Nat} {sql : String}
    {parameters : List Value} {e : Error}
    (answered : (s.send c sql parameters).1 = some (.failure e)) : fails e := by
  obtain ⟨rule, member, same⟩ := Rule.exists_of_answer answered
  exact h rule member e same

theorem FailsOnly.send (h : s.FailsOnly fails) (c : Nat) (sql : String)
    (parameters : List Value) : (s.send c sql parameters).2.FailsOnly fails := by
  intro rule member e failure
  obtain ⟨before, old, same⟩ := Rule.exists_of_mem_answer member
  exact h before old e (same.trans failure)

end Server

/-! ## Composed work -/

namespace Work

variable {α : Type} {x : Work α} {w v : Workspace} {r : Except Error α}

/-- Composed work that comes to its end leaves the script as it should be, and fails only so. -/
theorem Composed.of_run (h : Composed fails x) (scripted : w.database.server.FailsOnly fails)
    (run : x w = (.ofExcept r, v)) :
    v.database.server.FailsOnly fails ∧ ∀ e, r = .error e → fails e := by
  induction h generalizing w v with
  | quiet h =>
    obtain ⟨r', v', run', unheard, known⟩ := h w
    obtain ⟨same, rfl⟩ := Prod.mk.inj (run.symm.trans run')
    obtain rfl := Ending.ofExcept_inj same
    exact ⟨scripted.of_rules unheard.rules, known⟩
  | @run α interpret summary reading c sql parameters tag =>
    obtain ⟨clock, ⟨l, run'⟩ | ⟨rs, -, run'⟩⟩ := run_cases w reading c sql parameters tag
    · rw [run'] at run
      cases r <;> cases run
    · obtain ⟨same, rfl⟩ := Prod.mk.inj (run.symm.trans run')
      refine ⟨scripted.send c sql parameters, ?_⟩
      rintro e rfl
      exact scripted.of_reply ((reading.failure _ e).1 (Ending.ofExcept_inj same).symm)
  | bind _ _ first next =>
    rcases bind_eq_ofExcept run with ⟨e, failed, rfl⟩ | ⟨a, w', done, after⟩
    · obtain ⟨still, known⟩ := first (r := .error e) scripted failed
      exact ⟨still, fun _ same => by cases same; exact known e rfl⟩
    · obtain ⟨still, -⟩ := first (r := .ok a) scripted done
      exact next a still after
  | attempt_bind _ _ _ first ok error =>
    rcases bind_eq_ofExcept run with ⟨e, failed, rfl⟩ | ⟨outcome, w', done, after⟩
    · exact absurd failed attempt_ne_failed
    · obtain ⟨still, known⟩ := first scripted (attempt_eq_done.1 done)
      cases outcome with
      | ok a => exact ok a still after
      | error e => exact error e (known e rfl) still after

/-- Guarded work leaves everything as it was, where it fails otherwise than composed work does. -/
theorem Guarded.of_run (h : Guarded fails x) (scripted : w.database.server.FailsOnly fails)
    (run : x w = (.ofExcept r, v)) :
    v.database.server.FailsOnly fails ∧ ∀ e, r = .error e → ¬ fails e → v = w := by
  induction h generalizing w v with
  | @looks α x find h =>
    have same : v = w := by
      rw [h w] at run
      split at run <;> cases r <;> cases run <;> rfl
    exact ⟨same ▸ scripted, fun _ _ _ => same⟩
  | composed h =>
    obtain ⟨still, known⟩ := h.of_run scripted run
    exact ⟨still, fun e failed other => absurd (known e failed) other⟩
  | @looks_bind α β x find f h _ next =>
    rw [bind_apply, h w] at run
    cases found : find w with
    | ok a =>
      rw [found] at run
      exact next a scripted run
    | error e =>
      rw [found] at run
      have same : v = w := by
        cases r <;> cases run
        rfl
      exact ⟨same ▸ scripted, fun _ _ _ => same⟩
  | bind _ next first =>
    rcases bind_eq_ofExcept run with ⟨e, failed, rfl⟩ | ⟨a, w', done, after⟩
    · obtain ⟨still, traceless⟩ := first (r := .error e) scripted failed
      exact ⟨still, fun _ same => by cases same; exact traceless e rfl⟩
    · obtain ⟨still, known⟩ := (next a).of_run (first (r := .ok a) scripted done).1 after
      exact ⟨still, fun e failed other => absurd (known e failed) other⟩

end Work

/-! ## Operations -/

namespace Action

variable {a : Action} {w v : Workspace} {e : Error}

theorem operates_of_failed (failed : a.perform w = (.failed e, v)) : a.operates = true := by
  cases a with
  | sleep nanos =>
    obtain ⟨time, run | ⟨l, run⟩⟩ := pause_cases w nanos <;>
      simp [perform, run] at failed
  | newSession =>
    rcases bind_eq_ofExcept (r := .error e) failed with ⟨e, stuck, -⟩ | ⟨_, _, -, done⟩
    · have left := Session.succeeds_leave (w := w) (I := fun _ => True) true
        fun _ _ _ _ _ => trivial
      exact (left.of_run (r := .error e) stuck).elim
    · cases done
  | script | latency | refuse | resetStats => cases failed
  | _ => rfl

/-- An operation that fails validation has sent nothing and has not asked for a connection, and it
leaves the session, the records and everything else as they were. -/
theorem eq_of_validation
    (scripted : w.database.server.FailsOnly fun e => e.isValidation = false)
    (failed : a.perform w = (.failed e, v)) (invalid : e.isValidation = true) : v = w := by
  have guarded : Guarded (fun e => e.isValidation = false) a.perform :=
    a.guarded (fun _ h => h) (operates_of_failed failed)
  exact (guarded.of_run (r := .error e) scripted failed).2 e rfl (by simp [invalid])

/-- A type of people. -/
def people : RecordType where
  key := 0
  typeName := "Person"
  table := "person"
  schema := none
  identity := none
  fields := [⟨"id", "id", .optional (.scalar (.integer .signed64)), false⟩,
    ⟨"name", "name", .scalar .string, true⟩]

/-- A session whose transaction was interrupted, on a server that fails every statement. -/
def interruptedWorkspace : Workspace where
  database :=
    { config := {}, server := { rules := [⟨"", .failure (.connection "reset"), none⟩]
                                acquired := 1 } }
  session := ⟨some 1, true⟩
  records := [("ada", ⟨people,
    [⟨.optional (.scalar (.integer .signed64)), some (IntegerKind.zero _)⟩,
      ⟨.scalar .string, "Ada"⟩]⟩)]

/-- Nothing is recovered or sent for a field that there is not. -/
theorem eq_of_validation_unknownField :
    interruptedWorkspace.database.server.FailsOnly (fun e => e.isValidation = false) ∧
      ∃ e v, (updateFields "ada" ["name", "age"]).perform interruptedWorkspace = (.failed e, v) ∧
        e.isValidation = true ∧ v = interruptedWorkspace := by
  have scripted :
      interruptedWorkspace.database.server.FailsOnly fun e => e.isValidation = false := by
    intro rule member e failure
    obtain rfl := List.mem_singleton.1 member
    cases failure
    rfl
  have failed : (updateFields "ada" ["name", "age"]).perform interruptedWorkspace =
      (.failed (.validation (.unknownField "Person" "age")), interruptedWorkspace) :=
    refuses_perform rfl
  exact ⟨scripted, _, _, failed, rfl, eq_of_validation scripted failed rfl⟩

end Action

end DataMapper
