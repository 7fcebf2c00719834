import Mathlib.Data.List.Induction

/-!
# Formulas and how they are read

A condition is a formula over its smallest conditions, joined by `AND` and `OR`, of which `AND`
binds tighter. Each sequence of tokens has at most one reading, which a reader finds that keeps the
open parentheses on a stack.

## Main definitions

* `Formula`, `Formula.Holds` — formulas and when they hold.
* `Formula.Reads` — the grammar: which formulas a sequence of tokens can be read as.
* `Reader.step`, `Formula.read?` — the reader.

## Main statements

* `Formula.read?_eq_some_iff` — the reader finds the readings of the grammar.
* `Formula.Reads.unique` — there is at most one of them.
* `Formula.Reads.replace_iff` — an operand can be written out wherever it stands.
-/

namespace DataMapper.Sql

inductive Formula (α : Type) where
  | atom (a : α)
  | and (f g : Formula α)
  | or (f g : Formula α)

/-- What a condition consists of. `AND` may be set off by more than a blank. -/
inductive Token (β : Type) where
  | operand (b : β)
  | and (separator : String)
  | or
  | opening
  | closing

def Token.map {β γ : Type} (f : β → γ) : Token β → Token γ
  | operand b => operand (f b)
  | and separator => and separator
  | or => or
  | opening => opening
  | closing => closing

namespace Formula

variable {α : Type}

/-- The truth of a formula, given that of its atoms. -/
def Holds (v : α → Prop) : Formula α → Prop
  | atom a => v a
  | and f g => f.Holds v ∧ g.Holds v
  | or f g => f.Holds v ∨ g.Holds v

/-! ## The grammar -/

/-- How tight a formula is bound. -/
inductive Rank where
  | factor | conjunction | disjunction

/-- The formulas that a sequence of tokens can be read as. -/
inductive Reads : Rank → List (Token (Formula α)) → Formula α → Prop where
  | operand (f : Formula α) : Reads .factor [.operand f] f
  | group {ts : List (Token (Formula α))} {f : Formula α} (h : Reads .disjunction ts f) :
      Reads .factor (.opening :: ts ++ [.closing]) f
  | factor {ts : List (Token (Formula α))} {f : Formula α} (h : Reads .factor ts f) :
      Reads .conjunction ts f
  | and {ts us : List (Token (Formula α))} {f g : Formula α} (separator : String)
      (h : Reads .conjunction ts f) (last : Reads .factor us g) :
      Reads .conjunction (ts ++ .and separator :: us) (f.and g)
  | conjunction {ts : List (Token (Formula α))} {f : Formula α} (h : Reads .conjunction ts f) :
      Reads .disjunction ts f
  | or {ts us : List (Token (Formula α))} {f g : Formula α}
      (h : Reads .disjunction ts f) (last : Reads .conjunction us g) :
      Reads .disjunction (ts ++ .or :: us) (f.or g)

end Formula

/-! ## The reader -/

/-- What has been read inside a pair of parentheses: the alternatives up to the last `OR`, and the
factors since then up to the last `AND`. -/
structure Level (α : Type) where
  alternatives : Option (Formula α)
  factors : Option (Formula α)

namespace Level

variable {α : Type}

/-- The factors with one more behind them. -/
def conjunction (l : Level α) (f : Formula α) : Formula α :=
  match l.factors with
  | none => f
  | some g => g.and f

/-- The whole formula, given its last factor. -/
def value (l : Level α) (f : Formula α) : Formula α :=
  match l.alternatives with
  | none => l.conjunction f
  | some g => g.or (l.conjunction f)

end Level

/-- The levels around the innermost one, that one, and the operand in front, if it has been read. -/
structure Reader (α : Type) where
  outer : List (Level α)
  level : Level α
  operand : Option (Formula α)

namespace Reader

variable {α : Type}

def start : Reader α := ⟨[], ⟨none, none⟩, none⟩

def step : Reader α → Token (Formula α) → Option (Reader α)
  | ⟨outer, level, none⟩, .operand f => some ⟨outer, level, some f⟩
  | ⟨outer, level, none⟩, .opening => some ⟨level :: outer, ⟨none, none⟩, none⟩
  | ⟨outer, level, some f⟩, .and _ =>
    some ⟨outer, ⟨level.alternatives, some (level.conjunction f)⟩, none⟩
  | ⟨outer, level, some f⟩, .or => some ⟨outer, ⟨some (level.value f), none⟩, none⟩
  | ⟨around :: outer, level, some f⟩, .closing => some ⟨outer, around, some (level.value f)⟩
  | _, _ => none

def run (r : Reader α) (ts : List (Token (Formula α))) : Option (Reader α) := ts.foldlM step r

/-- The formula that has been read, if no parenthesis is open and no operand is missing. -/
def finish : Reader α → Option (Formula α)
  | ⟨[], level, some f⟩ => some (level.value f)
  | _ => none

theorem run_append (r : Reader α) (ts us : List (Token (Formula α))) :
    r.run (ts ++ us) = (r.run ts).bind fun r => r.run us := List.foldlM_append

theorem run_cons (r : Reader α) (t : Token (Formula α)) (ts : List (Token (Formula α))) :
    r.run (t :: ts) = (r.step t).bind fun r => r.run ts := List.foldlM_cons

theorem run_singleton (r : Reader α) (t : Token (Formula α)) : r.run [t] = r.step t := by
  rw [run_cons]
  cases r.step t <;> rfl

end Reader

def Formula.read? {α : Type} (ts : List (Token (Formula α))) : Option (Formula α) :=
  (Reader.start.run ts).bind Reader.finish

/-! ## Readings are found -/

namespace Reader

variable {α : Type}

/-- What the reader makes of tokens with a reading: a factor is taken as one operand wherever it
stands, and all else is taken where nothing of its rank is in front of it. -/
def Takes : Formula.Rank → List (Token (Formula α)) → Formula α → Prop
  | .factor, ts, f => ∀ r : Reader α, r.run ts = r.step (.operand f)
  | .conjunction, ts, f => ∀ outer alternatives, ∃ factors g,
      run ⟨outer, ⟨alternatives, none⟩, none⟩ ts = some ⟨outer, ⟨alternatives, factors⟩, some g⟩ ∧
        Level.conjunction ⟨alternatives, factors⟩ g = f
  | .disjunction, ts, f => ∀ outer, ∃ level g,
      run ⟨outer, ⟨none, none⟩, none⟩ ts = some ⟨outer, level, some g⟩ ∧ level.value g = f

theorem takes_of_reads {rank : Formula.Rank} {ts : List (Token (Formula α))} {f : Formula α}
    (h : Formula.Reads rank ts f) : Takes rank ts f := by
  induction h with
  | operand f => exact fun r => run_singleton r _
  | @group ts f _ ih =>
    rintro ⟨outer, level, _ | g⟩
    · obtain ⟨inner, g, run, value⟩ := ih (level :: outer)
      rw [List.cons_append, run_cons]
      change Reader.run _ (ts ++ _) = _
      rw [run_append, run, Option.bind_some, run_singleton, step, step, value]
    · rfl
  | @factor ts f _ ih =>
    intro outer alternatives
    exact ⟨none, f, ih _, rfl⟩
  | @and ts us f g separator _ _ ih last =>
    intro outer alternatives
    obtain ⟨factors, g', run, value⟩ := ih outer alternatives
    refine ⟨some f, g, ?_, rfl⟩
    rw [run_append, run, Option.bind_some, run_cons, step, value, Option.bind_some, last, step]
  | conjunction _ ih =>
    intro outer
    obtain ⟨factors, g, run, value⟩ := ih outer none
    exact ⟨⟨none, factors⟩, g, run, value⟩
  | @or ts us f g _ _ ih last =>
    intro outer
    obtain ⟨level, f', run, value⟩ := ih outer
    obtain ⟨factors, g', behind, rest⟩ := last outer (some f)
    refine ⟨⟨some f, factors⟩, g', ?_, congrArg f.or rest⟩
    rw [run_append, run, Option.bind_some, run_cons, step, value, Option.bind_some, behind]

end Reader

/-! ## What is found are readings -/

section

variable {α : Type}

/-- Tokens that end in a link and, in front of it, can be read as a formula, if there is one. -/
inductive Linked (rank : Formula.Rank) (link : Token (Formula α) → Prop) :
    Option (Formula α) → List (Token (Formula α)) → Prop where
  | none : Linked rank link none []
  | some {ts : List (Token (Formula α))} {f : Formula α} {t : Token (Formula α)}
      (h : Formula.Reads rank ts f) (own : link t) : Linked rank link (some f) (ts ++ [t])

/-- The tokens that a level stands for. -/
structure Level.Covers (l : Level α) (ts us : List (Token (Formula α))) : Prop where
  alternatives : Linked .disjunction (· = .or) l.alternatives ts
  factors : Linked .conjunction (∃ separator, · = .and separator) l.factors us

namespace Level.Covers

variable {l : Level α} {ts us fs : List (Token (Formula α))} {f : Formula α}

theorem nil : Level.Covers (⟨none, none⟩ : Level α) [] [] := ⟨.none, .none⟩

theorem conjunction (h : l.Covers ts us) (operand : Formula.Reads .factor fs f) :
    Formula.Reads .conjunction (us ++ fs) (l.conjunction f) := by
  obtain ⟨alternatives, factors⟩ := l
  obtain ⟨-, factors⟩ := h
  cases factors with
  | none => exact .factor operand
  | some h own =>
    obtain ⟨separator, rfl⟩ := own
    rw [List.append_assoc]
    exact .and separator h operand

theorem value (h : l.Covers ts us) (operand : Formula.Reads .factor fs f) :
    Formula.Reads .disjunction (ts ++ (us ++ fs)) (l.value f) := by
  have last := h.conjunction operand
  obtain ⟨alternatives, factors⟩ := l
  obtain ⟨alternatives, -⟩ := h
  cases alternatives with
  | none => exact .conjunction last
  | some h own =>
    obtain rfl := own
    rw [List.append_assoc]
    exact .or h last

/-- Behind `AND` the factors have one more. -/
theorem and (h : l.Covers ts us) (operand : Formula.Reads .factor fs f) (separator : String) :
    Level.Covers ⟨l.alternatives, some (l.conjunction f)⟩ ts (us ++ fs ++ [.and separator]) :=
  ⟨h.alternatives, .some (h.conjunction operand) ⟨separator, rfl⟩⟩

/-- Behind `OR` everything on the level is one alternative. -/
theorem or (h : l.Covers ts us) (operand : Formula.Reads .factor fs f) :
    Level.Covers ⟨some (l.value f), none⟩ (ts ++ (us ++ fs) ++ [.or]) [] :=
  ⟨.some (h.value operand) rfl, .none⟩

end Level.Covers

/-- The tokens that the levels around the innermost one stand for. -/
inductive Surrounds : List (Level α) → List (Token (Formula α)) → Prop where
  | nil : Surrounds [] []
  | cons {l : Level α} {ls : List (Level α)} {os ts us : List (Token (Formula α))}
      (h : Surrounds ls os) (own : l.Covers ts us) :
      Surrounds (l :: ls) (os ++ (ts ++ (us ++ [.opening])))

/-- The tokens that the reader stands for. -/
inductive Reader.Covers : Reader α → List (Token (Formula α)) → Prop where
  | awaiting {outer : List (Level α)} {level : Level α} {os ts us : List (Token (Formula α))}
      (around : Surrounds outer os) (own : level.Covers ts us) :
      Covers ⟨outer, level, none⟩ (os ++ (ts ++ us))
  | operand {outer : List (Level α)} {level : Level α} {f : Formula α}
      {os ts us fs : List (Token (Formula α))} (around : Surrounds outer os)
      (own : level.Covers ts us) (h : Formula.Reads .factor fs f) :
      Covers ⟨outer, level, some f⟩ (os ++ (ts ++ (us ++ fs)))

namespace Reader

/-- A token more. -/
theorem Covers.step {r r' : Reader α} {ts : List (Token (Formula α))} {t : Token (Formula α)}
    (h : r.Covers ts) (taken : r.step t = some r') : r'.Covers (ts ++ [t]) := by
  cases h with
  | awaiting around own =>
    cases t with
    | operand f =>
      cases taken
      simp only [List.append_assoc]
      exact .operand around own (.operand f)
    | opening =>
      cases taken
      simp only [List.append_assoc]
      simpa using Covers.awaiting (around.cons own) Level.Covers.nil
    | and | or | closing => cases taken
  | operand around own read =>
    cases t with
    | and separator =>
      cases taken
      simpa using Covers.awaiting around (own.and read separator)
    | or =>
      cases taken
      simpa using Covers.awaiting around (own.or read)
    | closing =>
      cases around with
      | nil => cases taken
      | cons around outer =>
        cases taken
        simpa using Covers.operand around outer (.group (own.value read))
    | operand | opening => cases taken

theorem Covers.run {r r' : Reader α} {ts us : List (Token (Formula α))} (h : r.Covers ts)
    (taken : r.run us = some r') : r'.Covers (ts ++ us) := by
  induction us generalizing r ts with
  | nil =>
    cases taken
    rwa [List.append_nil]
  | cons t us ih =>
    rw [run_cons] at taken
    obtain ⟨r₁, first, rest⟩ := Option.bind_eq_some_iff.1 taken
    rw [List.append_cons]
    exact ih (h.step first) rest

theorem covers_start : (start : Reader α).Covers [] := .awaiting .nil .nil

end Reader

namespace Formula

theorem read?_eq_some_iff {ts : List (Token (Formula α))} {f : Formula α} :
    read? ts = some f ↔ Reads .disjunction ts f := by
  constructor
  · intro found
    obtain ⟨r, run, finish⟩ := Option.bind_eq_some_iff.1 found
    have covers := Reader.covers_start.run run
    rw [List.nil_append] at covers
    cases covers with
    | awaiting => simp [Reader.finish] at finish
    | operand around own h =>
      cases around with
      | nil =>
        obtain rfl := Option.some.inj finish
        exact own.value h
      | cons => simp [Reader.finish] at finish
  · intro h
    obtain ⟨level, g, run, value⟩ := Reader.takes_of_reads h []
    rw [read?, Reader.start, run, Option.bind_some, Reader.finish, value]

example (a b c : Formula α) :
    read? [.operand a, .or, .operand b, .and " ", .operand c] = some (a.or (b.and c)) ∧
      read? [.opening, .operand a, .or, .operand b, .closing, .and " ", .operand c] =
        some ((a.or b).and c) := ⟨rfl, rfl⟩

theorem Reads.unique {ts : List (Token (Formula α))} {f g : Formula α}
    (h : Reads .disjunction ts f) (h' : Reads .disjunction ts g) : f = g :=
  Option.some.inj ((read?_eq_some_iff.2 h).symm.trans (read?_eq_some_iff.2 h'))

/-- A factor reads as one operand, whatever stands around it. -/
theorem Reads.replace_iff {ts : List (Token (Formula α))} {f : Formula α} (h : Reads .factor ts f)
    (before behind : List (Token (Formula α))) (g : Formula α) :
    Reads .disjunction (before ++ ts ++ behind) g ↔
      Reads .disjunction (before ++ .operand f :: behind) g := by
  have same : read? (before ++ ts ++ behind) = read? (before ++ .operand f :: behind) := by
    unfold read?
    rw [List.append_assoc, Reader.run_append, Reader.run_append]
    refine congrArg (Option.bind · _) (congrArg _ (funext fun r => ?_))
    rw [Reader.run_append, Reader.takes_of_reads h, Reader.run_cons]
  rw [← read?_eq_some_iff, ← read?_eq_some_iff, same]

end Formula

end

/-! ## Chains -/

/-- What joins two conditions. -/
inductive Connective where
  | and (separator : String)
  | or

namespace Connective

def token {β : Type} : Connective → Token β
  | and separator => .and separator
  | or => .or

theorem map_token {β γ : Type} (f : β → γ) (c : Connective) :
    (c.token : Token β).map f = c.token := by
  cases c <;> rfl

/-- How tight a chain is bound. -/
def rank : Connective → Formula.Rank
  | and _ => .conjunction
  | or => .disjunction

/-- A chain holds if all of its members do, or if some member does. -/
def Combines {ι : Type} (members : List ι) (p : ι → Prop) : Connective → Prop
  | and _ => ∀ i ∈ members, p i
  | or => ∃ i ∈ members, p i

theorem combines_singleton {ι : Type} (i : ι) (p : ι → Prop) (c : Connective) :
    c.Combines [i] p ↔ p i := by
  cases c <;> simp [Combines]

end Connective

section

variable {β γ ι : Type}

/-- Sequences of tokens with a token between each two. -/
def chain (t : Token β) : List (List (Token β)) → List (Token β)
  | [] => []
  | [ts] => ts
  | ts :: us :: tss => ts ++ t :: chain t (us :: tss)

theorem chain_cons (t : Token β) (ts : List (Token β)) {tss : List (List (Token β))}
    (ne : tss ≠ []) : chain t (ts :: tss) = ts ++ t :: chain t tss := by
  cases tss with
  | nil => exact absurd rfl ne
  | cons => rfl

theorem chain_concat (t : Token β) {tss : List (List (Token β))} (ne : tss ≠ [])
    (us : List (Token β)) : chain t (tss ++ [us]) = chain t tss ++ t :: us := by
  induction tss with
  | nil => exact absurd rfl ne
  | cons ts tss ih =>
    cases tss with
    | nil => rfl
    | cons => rw [List.cons_append, chain_cons t ts (by simp), ih (by simp),
        chain_cons t ts (by simp), List.append_assoc, List.cons_append]

theorem map_chain (f : β → γ) (t : Token β) (tss : List (List (Token β))) :
    (chain t tss).map (Token.map f) = chain (t.map f) (tss.map (List.map (Token.map f))) := by
  induction tss with
  | nil => rfl
  | cons ts tss ih =>
    cases tss with
    | nil => rfl
    | cons =>
      rw [chain_cons t ts (by simp), List.map_append, List.map_cons, ih]
      rfl

namespace Formula

variable {α : Type}

/-- The tokens can be read as a formula that holds as said. -/
def Means (rank : Rank) (ts : List (Token (Formula α))) (p : (α → Prop) → Prop) : Prop :=
  ∃ f, Reads rank ts f ∧ ∀ v, f.Holds v ↔ p v

theorem means_operand (a : α) : Means .factor [.operand (.atom a)] fun v => v a :=
  ⟨.atom a, .operand _, fun _ => Iff.rfl⟩

theorem Means.group {ts : List (Token (Formula α))} {p : (α → Prop) → Prop}
    (h : Means .disjunction ts p) : Means .factor (.opening :: ts ++ [.closing]) p := by
  obtain ⟨f, reads, holds⟩ := h
  exact ⟨f, .group reads, holds⟩

theorem Means.disjunction {ts : List (Token (Formula α))} {p : (α → Prop) → Prop} {c : Connective}
    (h : Means c.rank ts p) : Means .disjunction ts p := by
  obtain ⟨f, reads, holds⟩ := h
  cases c with
  | and => exact ⟨f, .conjunction reads, holds⟩
  | or => exact ⟨f, reads, holds⟩

/-- A chain of factors holds if all of them do, or if one of them does. -/
theorem means_chain (c : Connective) {is : List ι} (ne : is ≠ [])
    {tokens : ι → List (Token (Formula α))} {p : ι → (α → Prop) → Prop}
    (each : ∀ i ∈ is, Means .factor (tokens i) (p i)) :
    Means c.rank (chain c.token (is.map tokens)) fun v => c.Combines is fun i => p i v := by
  induction is using List.reverseRecOn with
  | nil => exact absurd rfl ne
  | append_singleton is i ih =>
    obtain ⟨g, last, holds⟩ := each i (by simp)
    by_cases front : is = []
    · subst front
      have same (v : α → Prop) := (holds v).trans (c.combines_singleton i fun i => p i v).symm
      cases c with
      | and separator => exact ⟨g, .factor last, same⟩
      | or => exact ⟨g, .conjunction (.factor last), same⟩
    · obtain ⟨f, reads, earlier⟩ := ih front fun j hj => each j (List.mem_append_left _ hj)
      have tokens_eq : chain c.token ((is ++ [i]).map tokens) =
          chain c.token (is.map tokens) ++ c.token :: tokens i := by
        rw [List.map_append, List.map_singleton, chain_concat _ (by simpa using front)]
      rw [tokens_eq]
      cases c with
      | and separator =>
        refine ⟨f.and g, .and separator reads last, fun v => ?_⟩
        simp only [Holds, earlier, holds, Connective.Combines, List.forall_mem_append,
          List.forall_mem_singleton]
      | or =>
        refine ⟨f.or g, .or reads (.factor last), fun v => ?_⟩
        simp only [Holds, earlier, holds, Connective.Combines, List.mem_append, List.mem_singleton,
          or_and_right, exists_or, exists_eq_left]

end Formula

end

end DataMapper.Sql
