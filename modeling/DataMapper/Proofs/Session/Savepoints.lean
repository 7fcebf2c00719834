import DataMapper.Proofs.Number.Digits
import DataMapper.Proofs.Session.Composition
import DataMapper.Proofs.Session.Shapes

/-!
# Work inside a savepoint

Inside an open transaction, work can be run inside a savepoint. The savepoint is named by a number
that no other has, and it is set first; the work is run only if that succeeds. Behind the work its
savepoint is released if the work has succeeded, and rolled back to if it has failed. In any case
the transaction stays open on its connection.

## Main definitions

* `Concerns`, `IsForeign` — text about the savepoint of a number, and text about no such savepoint.
* `isClosing` — a statement that releases the savepoint of a number or rolls back to it.
* `Nested` — statements inside a transaction whose savepoints are nested.
* `Session.Stays` — a transaction stays open while statements are sent in it.
* `Session.Enclosed` — how work inside a savepoint ends.

## Main statements

* `Session.ends_inSavepoint` — work with nested savepoints, inside a savepoint.
-/

namespace DataMapper

open Work

/-! ## Names -/

namespace Sql

theorem toList_savepointName (n : Nat) :
    (savepointName n).toList = "sqlrecord_sp_".toList ++ Nat.toDigits 10 n := by
  rw [savepointName, String.toList_append, ← Nat.toList_repr]
  rfl

theorem savepointName_inj {n m : Nat} (h : savepointName n = savepointName m) : n = m := by
  have same := congrArg String.toList h
  rw [toList_savepointName, toList_savepointName] at same
  have digits := congrArg (Number.digitsValue 0) (List.append_cancel_left same)
  rwa [Number.digitsValue_toDigits, Number.digitsValue_toDigits] at digits

/-- A counter of 64 bits, which begins again behind its greatest number, gives the first 2 ^ 64
savepoints the same names. -/
theorem savepointName_toNat_ofNat {n : Nat} (few : n < 2 ^ 64) :
    savepointName (UInt64.ofNat n).toNat = savepointName n := by
  rw [UInt64.toNat_ofNat_of_lt' few]

theorem isSavepointName_savepointName (n : Nat) : isSavepointName (savepointName n) = true := by
  have digits : ∀ c ∈ Nat.toDigits 10 n, (c.isAlphanum || c == '_') = true := by
    intro c hc
    simp [Char.isAlphanum, Number.isDigit_of_mem_toDigits hc]
  rw [isSavepointName, toList_savepointName]
  show (('s'.isAlpha || 's' == '_') && ("qlrecord_sp_".toList ++ Nat.toDigits 10 n).all _) = true
  rw [List.all_append, List.all_eq_true.2 digits]
  decide

end Sql

/-! ## Texts -/

/-- A command about the savepoint of a number. -/
def savepointText (command : String) (n : Nat) : String := command ++ " " ++ Sql.savepointName n

def savepointCommands : List String :=
  [Session.setSavepoint, Session.rollbackToSavepoint, Session.releaseSavepoint]

/-- The text is about the savepoint of this number. -/
def Concerns (n : Nat) (sql : String) : Prop :=
  ∃ command ∈ savepointCommands, sql = savepointText command n

/-- The text neither begins nor ends a transaction, and it is about no savepoint that is named by a
number. -/
def IsForeign (sql : String) : Prop := ¬ IsControl sql ∧ ∀ n, ¬ Concerns n sql

theorem prefix_savepointText (command : String) (n : Nat) :
    (command ++ " ").toList <+: (savepointText command n).toList :=
  lead_append (List.prefix_refl _) _

theorem savepointText_inj {first second : String} {n m : Nat} (h₁ : first ∈ savepointCommands)
    (h₂ : second ∈ savepointCommands) (h : savepointText first n = savepointText second m) :
    first = second ∧ n = m := by
  -- No command goes on behind the blank with which another one ends.
  have apart : ∀ a ∈ savepointCommands, ∀ b ∈ savepointCommands,
      (a ++ " ").toList <+: (b ++ " ").toList → a = b := by decide
  have begins := prefix_savepointText first n
  rw [h] at begins
  obtain rfl : first = second := by
    rcases List.prefix_or_prefix_of_prefix begins (prefix_savepointText second m) with
      before | before
    · exact apart _ h₁ _ h₂ before
    · exact (apart _ h₂ _ h₁ before).symm
  have same := congrArg String.toList h
  simp only [savepointText, String.toList_append, List.append_assoc, List.append_cancel_left_eq,
    String.toList_inj] at same
  exact ⟨rfl, Sql.savepointName_inj same⟩

theorem Concerns.number_eq {n m : Nat} {sql : String} (h₁ : Concerns n sql)
    (h₂ : Concerns m sql) : n = m := by
  obtain ⟨first, known₁, rfl⟩ := h₁
  obtain ⟨second, known₂, same⟩ := h₂
  exact (savepointText_inj known₁ known₂ same).2

theorem Concerns.not_isControl {n : Nat} {sql : String} (h : Concerns n sql) : ¬ IsControl sql := by
  obtain ⟨command, known, rfl⟩ := h
  exact not_isControl_savepoint known

theorem IsData.isForeign {sql : String} (h : IsData sql) : IsForeign sql := by
  refine ⟨h.not_isControl, ?_⟩
  rintro n ⟨command, known, rfl⟩
  obtain ⟨lead, data, begins⟩ := h
  have apart : ∀ lead ∈ dataLeads, ∀ command ∈ savepointCommands,
      ¬ lead.toList <+: (command ++ " ").toList ∧ ¬ (command ++ " ").toList <+: lead.toList := by
    decide
  obtain ⟨first, second⟩ := apart lead data command known
  exact (List.prefix_or_prefix_of_prefix begins (prefix_savepointText command n)).elim first second

/-- The statement releases the savepoint of this number, or rolls back to it. -/
def isClosing (n : Nat) (st : SentStatement) : Bool :=
  st.sql == savepointText Session.releaseSavepoint n ||
    st.sql == savepointText Session.rollbackToSavepoint n

theorem concerns_of_isClosing {n : Nat} {st : SentStatement} (h : isClosing n st = true) :
    Concerns n st.sql := by
  simp only [isClosing, Bool.or_eq_true, beq_iff_eq] at h
  exact h.elim (⟨_, by decide, ·⟩) (⟨_, by decide, ·⟩)

theorem isClosing_of_sets {n m : Nat} {st : SentStatement}
    (sets : st.sql = savepointText Session.setSavepoint n) : isClosing m st = false := by
  refine Bool.eq_false_iff.2 fun h => ?_
  simp only [isClosing, Bool.or_eq_true, beq_iff_eq, sets] at h
  rcases h with same | same
  · exact absurd (savepointText_inj (by decide) (by decide) same).1 (by decide)
  · exact absurd (savepointText_inj (by decide) (by decide) same).1 (by decide)

/-! ## Nested savepoints -/

/-- Statements inside a transaction of which those about savepoints are nested. Their numbers run
from the first number on and stay below the second. -/
inductive Nested : Nat → List SentStatement → Nat → Prop where
  | foreign {n m : Nat} {sts : List SentStatement} (le : n ≤ m)
      (foreign : ∀ st ∈ sts, IsForeign st.sql) : Nested n sts m
  /-- A savepoint that could not be set is not mentioned again. -/
  | refused {n : Nat} {st : SentStatement} (sets : st.sql = savepointText Session.setSavepoint n)
      (failed : st.failed = true) : Nested n [st] (n + 1)
  /-- A savepoint is set, and behind everything inside it is released or rolled back to. -/
  | pair {n m : Nat} {first last : SentStatement} {sts : List SentStatement}
      (sets : first.sql = savepointText Session.setSavepoint n) (fine : first.failed = false)
      (inside : Nested (n + 1) sts m) (closes : isClosing n last = true) :
      Nested n (first :: sts ++ [last]) m
  | append {n m k : Nat} {sts more : List SentStatement} (before : Nested n sts m)
      (behind : Nested m more k) : Nested n (sts ++ more) k

namespace Nested

variable {n m i : Nat} {sts : List SentStatement}

theorem le (h : Nested n sts m) : n ≤ m := by
  induction h with
  | foreign le => exact le
  | refused => exact Nat.le_succ _
  | pair _ _ _ _ ih => exact Nat.le_of_succ_le ih
  | append _ _ before behind => exact Nat.le_trans before behind

theorem concerns_or_mem {first last st : SentStatement}
    (sets : first.sql = savepointText Session.setSavepoint n) (closes : isClosing n last = true)
    (hst : st ∈ first :: sts ++ [last]) : Concerns n st.sql ∨ st ∈ sts := by
  simp only [List.cons_append, List.mem_cons, List.mem_append, List.not_mem_nil, or_false] at hst
  rcases hst with rfl | inside | rfl
  · exact .inl ⟨_, by decide, sets⟩
  · exact .inr inside
  · exact .inl (concerns_of_isClosing closes)

/-- The statements that concern a savepoint, concern one of those numbers. -/
theorem number_mem (h : Nested n sts m) {st : SentStatement} (hst : st ∈ sts)
    (concerns : Concerns i st.sql) : n ≤ i ∧ i < m := by
  induction h with
  | foreign _ foreign => exact absurd concerns ((foreign st hst).2 i)
  | refused sets =>
    obtain rfl := List.mem_singleton.1 hst
    obtain rfl := concerns.number_eq ⟨_, by decide, sets⟩
    exact ⟨Nat.le_refl _, Nat.lt_succ_self _⟩
  | pair sets _ inside closes ih =>
    rcases concerns_or_mem sets closes hst with own | hst
    · obtain rfl := concerns.number_eq own
      exact ⟨Nat.le_refl _, inside.le⟩
    · exact ⟨Nat.le_of_succ_le (ih hst).1, (ih hst).2⟩
  | append before behind ih₁ ih₂ =>
    rcases List.mem_append.1 hst with hst | hst
    · exact ⟨(ih₁ hst).1, Nat.lt_of_lt_of_le (ih₁ hst).2 behind.le⟩
    · exact ⟨Nat.le_trans before.le (ih₂ hst).1, (ih₂ hst).2⟩

theorem countP_isClosing_eq_zero (h : Nested n sts m) (outside : i < n ∨ m ≤ i) :
    sts.countP (isClosing i) = 0 := by
  refine List.countP_eq_zero.2 fun st hst closes => ?_
  obtain ⟨first, last⟩ := h.number_mem hst (concerns_of_isClosing closes)
  omega

/-- No savepoint is closed twice. -/
theorem countP_isClosing_le_one (h : Nested n sts m) (i : Nat) : sts.countP (isClosing i) ≤ 1 := by
  induction h with
  | foreign le foreign =>
    have none (st : SentStatement) (hst : st ∈ _) : ¬ isClosing i st = true := fun closes =>
      (foreign st hst).2 i (concerns_of_isClosing closes)
    rw [List.countP_eq_zero.2 none]
    exact Nat.zero_le 1
  | refused => exact List.countP_le_length
  | @pair n m first last sts sets fine inside closes ih =>
    rw [List.countP_append, List.countP_cons_of_neg (by simp [isClosing_of_sets sets])]
    by_cases own : i = n
    · have none := inside.countP_isClosing_eq_zero (.inl (Nat.lt_succ_of_le (Nat.le_of_eq own)))
      rw [none, Nat.zero_add]
      exact List.countP_le_length
    · have other : ¬ isClosing i last = true := fun closes' =>
        own ((concerns_of_isClosing closes').number_eq (concerns_of_isClosing closes))
      rw [List.countP_cons_of_neg other]
      exact ih
  | @append n m k sts more before behind ih₁ ih₂ =>
    rw [List.countP_append]
    by_cases below : i < m
    · rw [behind.countP_isClosing_eq_zero (.inl below)]
      exact ih₁
    · rw [before.countP_isClosing_eq_zero (.inr (Nat.le_of_not_lt below)), Nat.zero_add]
      exact ih₂

theorem isPlain (h : Nested n sts m) : IsPlain sts := by
  induction h with
  | foreign _ foreign => exact fun st hst => (foreign st hst).1
  | refused sets =>
    intro st hst
    obtain rfl := List.mem_singleton.1 hst
    exact Concerns.not_isControl ⟨_, by decide, sets⟩
  | pair sets _ _ closes ih =>
    intro st hst
    exact (concerns_or_mem sets closes hst).elim Concerns.not_isControl (ih st)
  | append _ _ ih₁ ih₂ =>
    intro st hst
    exact (List.mem_append.1 hst).elim (ih₁ st) (ih₂ st)

end Nested

namespace Session

variable {α : Type} {c : Nat} {w v u : Workspace} {sts more : List SentStatement}

/-! ## The open transaction -/

/-- The transaction on the connection stays open while these statements are sent in it. -/
structure Stays (c : Nat) (w : Workspace) (sts : List SentStatement) (v : Workspace) : Prop where
  session : v.session = ⟨some c, false⟩
  sent : v.standing.ledger.on c = w.standing.ledger.on c ++ sts
  released : v.standing.ledger.released.count c = w.standing.ledger.released.count c
  discarded : v.standing.ledger.discarded.count c = w.standing.ledger.discarded.count c
  /-- The numbers that have been given to savepoints stay given. -/
  named : w.database.savepoints ≤ v.database.savepoints

theorem Stays.refl (session : w.session = ⟨some c, false⟩) : Stays c w [] w :=
  ⟨session, (List.append_nil _).symm, rfl, rfl, Nat.le_refl _⟩

theorem Stays.trans (h : Stays c w sts v) (g : Stays c v more u) : Stays c w (sts ++ more) u where
  session := g.session
  sent := by rw [g.sent, h.sent, List.append_assoc]
  released := g.released.trans h.released
  discarded := g.discarded.trans h.discarded
  named := Nat.le_trans h.named g.named

theorem stays_of_send (session : w.session = ⟨some c, false⟩)
    (on : ∀ st ∈ sts, st.connection = c)
    (stands : v.standing = ⟨w.session, w.standing.ledger.send sts⟩)
    (named : w.database.savepoints ≤ v.database.savepoints) : Stays c w sts v where
  session := by rw [← session]; exact congrArg Standing.session stands
  sent := by rw [stands]; exact Ledger.on_send on
  released := by rw [stands]; rfl
  discarded := by rw [stands]; rfl
  named

/-- The transaction stays open, whatever is sent in it. -/
def StaysOpen (c : Nat) (w v : Workspace) : Prop := ∃ sts, Stays c w sts v

theorem StaysOpen.trans (h : StaysOpen c w v) (g : StaysOpen c v u) : StaysOpen c w u := by
  obtain ⟨_, stays⟩ := h
  obtain ⟨_, stays'⟩ := g
  exact ⟨_, stays.trans stays'⟩

theorem StaysOpen.session (h : StaysOpen c w v) : v.session = ⟨some c, false⟩ := by
  obtain ⟨_, stays⟩ := h
  exact stays.session

theorem StaysOpen.named (h : StaysOpen c w v) :
    w.database.savepoints ≤ v.database.savepoints := by
  obtain ⟨_, stays⟩ := h
  exact stays.named

/-- The transaction stays open, and the savepoints in it are nested. -/
def Nests (c : Nat) (w v : Workspace) : Prop :=
  ∃ sts, Stays c w sts v ∧ Nested w.database.savepoints sts v.database.savepoints

theorem Nests.trans (h : Nests c w v) (g : Nests c v u) : Nests c w u := by
  obtain ⟨sts, stays, nested⟩ := h
  obtain ⟨more, stays', nested'⟩ := g
  exact ⟨sts ++ more, stays.trans stays', nested.append nested'⟩

theorem Nests.staysOpen (h : Nests c w v) : StaysOpen c w v := by
  obtain ⟨sts, stays, -⟩ := h
  exact ⟨sts, stays⟩

/-! ## The commands of a savepoint -/

/-- Inside the transaction a command about a savepoint is one statement, and the reply is its
result. -/
theorem ends_savepointText (session : w.session = ⟨some c, false⟩) (command : String) (n : Nat) :
    Ends (savepointCommand command (Sql.savepointName n)) w
      (fun r v => ∃ st : SentStatement, st.sql = savepointText command n ∧
        r = Reply.completion st.reply ∧ Stays c w [st] v ∧
        v.database.savepoints = w.database.savepoints) (fun _ => True) := by
  have present : recover w = (.done false, w) := recover_of_present (by rw [session])
  have same : savepointCommand command (Sql.savepointName n) w =
      runBatch c (savepointText command n) none w := by
    simp [savepointCommand, Sql.isSavepointName_savepointName, present, Work.read, session,
      savepointText]
  refine ((ends_runBatch c _ none fun _ _ _ => trivial).with_run.congr same).mono ?_
  rintro r v ⟨run, st, on, text, answered, stands⟩
  have named : v.database.savepoints = w.database.savepoints := by
    have counted := (Composed.runBatch c (savepointText command n) none).savepoints_eq w
    rwa [run] at counted
  have stays : Stays c w [st] v :=
    stays_of_send session (by simpa using on) stands (Nat.le_of_eq named.symm)
  exact ⟨st, text, answered, stays, named⟩

/-- Name a savepoint, and set it. -/
def setNext : Work String := do
  let name ← nextSavepoint
  savepointCommand setSavepoint name
  return name

/-- Release the savepoint behind work, or roll back to it, as the work has ended. -/
def closeSavepoint (name : String) : Except Error α → Work α
  | .ok a => do
    savepointCommand releaseSavepoint name
    return a
  | .error e => do
    match ← attempt (savepointCommand rollbackToSavepoint name) with
    | .ok () => fail e
    | .error e' =>
      warn "rollback to savepoint failed" [errorField e', ("savepoint", .text name)]
      fail e

theorem inSavepoint_apply (body : Work α) (w : Workspace) :
    inSavepoint body w = (setNext >>= fun name => attempt body >>= closeSavepoint name) w := by
  obtain ⟨name, w₁, named⟩ : ∃ name w₁, nextSavepoint w = (.done name, w₁) := ⟨_, _, rfl⟩
  rcases set : savepointCommand setSavepoint name w₁ with ⟨_ | e | l, w₂⟩ <;>
    simp [inSavepoint, setNext, named, set]
  rcases ended : attempt body w₂ with ⟨⟨_ | _⟩ | e | l, w₃⟩ <;> rfl

theorem succeeds_nextSavepoint (session : w.session = ⟨some c, false⟩) :
    Succeeds nextSavepoint w (fun name v => name = Sql.savepointName w.database.savepoints ∧
      Stays c w [] v ∧ v.database.savepoints = w.database.savepoints + 1) (fun _ => True) :=
  .ended (r := .ok _) rfl rfl
    ⟨rfl, ⟨session, (List.append_nil _).symm, rfl, rfl, Nat.le_succ _⟩, rfl⟩

theorem ends_setNext (session : w.session = ⟨some c, false⟩) :
    Ends setNext w (fun r v => ∃ st : SentStatement,
      st.sql = savepointText setSavepoint w.database.savepoints ∧
      r = (Reply.completion st.reply).map (fun _ => Sql.savepointName w.database.savepoints) ∧
      Stays c w [st] v ∧ v.database.savepoints = w.database.savepoints + 1) (fun _ => True) := by
  refine .after (succeeds_nextSavepoint session) ?_
  rintro _ w₁ ⟨rfl, counted, next⟩
  rw [← next]
  refine .bind (ends_savepointText counted.session setSavepoint _) ?_ ?_
  · rintro _ v ⟨st, text, answered, stays, same⟩
    refine (succeeds_pure _).ends ?_
    rintro _ _ ⟨rfl, rfl⟩
    exact ⟨st, text, by rw [← answered]; rfl, counted.trans stays, same⟩
  · rintro e v ⟨st, text, answered, stays, same⟩
    exact ⟨st, text, by rw [← answered]; rfl, counted.trans stays, same⟩

theorem staysOpen_of_setNext (session : w.session = ⟨some c, false⟩) {name : String}
    (set : setNext w = (.done name, v)) :
    StaysOpen c w v ∧ v.database.savepoints = w.database.savepoints + 1 := by
  obtain ⟨_, -, -, stays, counted⟩ := (ends_setNext session).of_run (r := .ok name) set
  exact ⟨⟨_, stays⟩, counted⟩

/-- The command behind work in its savepoint. -/
def closingCommand : Except Error α → String
  | .ok _ => releaseSavepoint
  | .error _ => rollbackToSavepoint

/-- The result of work inside a savepoint, from that of the work and the reply to the last command:
the failure of the work is told whatever becomes of the rollback. -/
def enclosedResult (reply : Option Reply) : Except Error α → Except Error α
  | .ok a => (Reply.completion reply).map fun _ => a
  | .error e => .error e

theorem ends_closeSavepoint (session : w.session = ⟨some c, false⟩) (n : Nat)
    (result : Except Error α) :
    Ends (closeSavepoint (Sql.savepointName n) result) w (fun r v => ∃ st : SentStatement,
      st.sql = savepointText (closingCommand result) n ∧ r = enclosedResult st.reply result ∧
      Stays c w [st] v ∧ v.database.savepoints = w.database.savepoints) (fun _ => True) := by
  cases result with
  | ok a =>
    refine .bind (ends_savepointText session releaseSavepoint n) ?_ ?_
    · rintro _ v ⟨st, text, answered, stays, named⟩
      refine (succeeds_pure a).ends ?_
      rintro _ _ ⟨rfl, rfl⟩
      exact ⟨st, text, by rw [enclosedResult, ← answered]; rfl, stays, named⟩
    · rintro e v ⟨st, text, answered, stays, named⟩
      exact ⟨st, text, by rw [enclosedResult, ← answered]; rfl, stays, named⟩
  | error e =>
    refine .after (ends_savepointText session rollbackToSavepoint n).attempt ?_
    rintro undone v ⟨st, text, -, stays, named⟩
    cases undone with
    | ok =>
      refine (ends_fail e).mono ?_
      rintro _ _ ⟨rfl, rfl⟩
      exact ⟨st, text, rfl, stays, named⟩
    | error e' =>
      refine .after (succeeds_modify (by rfl)) ?_
      rintro _ _ rfl
      refine (ends_fail e).mono ?_
      rintro _ _ ⟨rfl, rfl⟩
      exact ⟨st, text, rfl, ⟨stays.session, stays.sent, stays.released, stays.discarded,
        stays.named⟩, named⟩

/-! ## The whole -/

/-- How work inside a savepoint ends, and what it has sent in the transaction. -/
inductive Enclosed (c : Nat) (body : Work α) (w : Workspace) :
    Except Error α → Workspace → Prop where
  /-- The savepoint could not be set, and the work is not run, whatever it is. -/
  | refused {st : SentStatement} {e : Error} {v : Workspace}
      (set : setNext w = (.failed e, v))
      (sets : st.sql = savepointText setSavepoint w.database.savepoints)
      (answered : .error e = Reply.completion st.reply) (stays : Stays c w [st] v)
      (counted : v.database.savepoints = w.database.savepoints + 1)
      (unrun : ∀ {β : Type} (other : Work β), inSavepoint other w = (.failed e, v)) :
      Enclosed c body w (.error e) v
  /-- The work is run between the first and the last command about its savepoint, and no other
  statement is about that savepoint. -/
  | closed {first last : SentStatement} {sts : List SentStatement} {result : Except Error α}
      {u u' v : Workspace}
      (set : setNext w = (.done (Sql.savepointName w.database.savepoints), u))
      (sets : first.sql = savepointText setSavepoint w.database.savepoints)
      (fine : first.failed = false) (opens : Stays c w [first] u)
      (ran : body u = (.ofExcept result, u')) (inside : Stays c u sts u')
      (nested : Nested (w.database.savepoints + 1) sts u'.database.savepoints)
      (others : ∀ st ∈ sts, ¬ Concerns w.database.savepoints st.sql)
      (closes : last.sql = savepointText (closingCommand result) w.database.savepoints)
      (ends : Stays c u' [last] v) (counted : v.database.savepoints = u'.database.savepoints) :
      Enclosed c body w (enclosedResult last.reply result) v

theorem ends_inSavepoint {body : Work α} (session : w.session = ⟨some c, false⟩)
    (inside : ∀ u, u.session = ⟨some c, false⟩ →
      Ends body u (fun _ v => Nests c u v) fun _ => True) :
    Ends (inSavepoint body) w (Enclosed c body w) (fun _ => True) := by
  refine Ends.congr ?_ (inSavepoint_apply body w)
  refine .bind (ends_setNext session).with_run ?_ ?_
  · rintro name u ⟨set, first, sets, answered, opens, counted⟩
    obtain ⟨_, fine, rfl⟩ := Except.map_eq_ok_iff.1 answered.symm
    refine .after (inside u opens.session).with_run.attempt ?_
    rintro result u' ⟨ran, sts, stays, nested⟩
    rw [counted] at nested
    refine (ends_closeSavepoint stays.session _ result).mono ?_
    rintro _ v ⟨last, closes, rfl, ends, named⟩
    refine .closed set sets (not_failed_of_ok fine.symm) opens ran stays nested ?_ closes ends named
    intro st hst own
    exact Nat.not_succ_le_self _ (nested.number_mem hst own).1
  · rintro e v ⟨failed, st, sets, answered, stays, counted⟩
    have answered := (Except.map_eq_error_iff.1 answered.symm).symm
    refine .refused failed sets answered stays counted fun other => ?_
    rw [inSavepoint_apply, bind_apply, failed]
    rfl

theorem isClosing_of_closes {n : Nat} {st : SentStatement} {result : Except Error α}
    (closes : st.sql = savepointText (closingCommand result) n) : isClosing n st = true := by
  cases result <;> simp [isClosing, closes, closingCommand]

/-- Work inside a savepoint is nested in the transaction around it. -/
theorem Enclosed.nests {body : Work α} {r : Except Error α} (h : Enclosed c body w r v) :
    Nests c w v := by
  cases h with
  | @refused st _ _ _ sets answered stays counted =>
    refine ⟨[st], stays, ?_⟩
    rw [counted]
    exact .refused sets (failed_of_error answered)
  | @closed first last sts result _ _ _ _ sets fine opens _ inside nested _ closes ends counted =>
    refine ⟨first :: sts ++ [last], (opens.trans inside).trans ends, ?_⟩
    rw [counted]
    exact .pair sets fine nested (isClosing_of_closes closes)

/-- The number of the savepoint stays its own. -/
theorem Enclosed.number_lt {body : Work α} {r : Except Error α} (h : Enclosed c body w r v) :
    w.database.savepoints < v.database.savepoints := by
  cases h with
  | refused _ _ _ _ counted => exact counted ▸ Nat.lt_succ_self _
  | closed _ _ _ _ _ _ nested _ _ _ counted => exact counted ▸ nested.le

end Session

end DataMapper
