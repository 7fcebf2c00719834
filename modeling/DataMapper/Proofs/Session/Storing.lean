import DataMapper.Proofs.Record.Rereading
import DataMapper.Proofs.Session.Writers

/-!
# Records that are stored

A record without an identity of its own is inserted. Behind its statement it is given the identity
that the database has generated, if it had none, and the fields that were left to the clock of the
database are read back. Any other record is updated.

## Main definitions

* `Session.Identified`, `Session.ReadsBack` — the queries behind an insertion.

## Main statements

* `Session.filled_of_inserted` — what a record is after an insertion.
* `Session.insert_or_update` — a record is stored.
-/

namespace DataMapper

open Work

theorem Value.eq_int_of_int? {v : Value} {n : Int64} (h : v.int? = some n) : v = .int n := by
  cases v <;> cases h
  rfl

theorem Workspace.Kept.find_eq {w v : Workspace} (h : w.Kept v) (name : String) :
    v.find name = w.find name := by
  rw [Workspace.find, h.records, Workspace.find]

namespace Session

variable {α : Type} {w v u : Workspace} {name tag : String} {r : Record} {m : Mapping}

/-- What has become of a record is kept. -/
theorem change_eq (found : w.find name = .ok r) (f : TextStore → Record → Change α) :
    ∃ v, change name f w = (.ofExcept (f w.store r).result, v) ∧ v.database = w.database ∧
      v.store = (f w.store r).store ∧ v.find name = .ok (f w.store r).record := by
  unfold change
  rw [looks_texts.bind_eq rfl, (looks_record name).bind_eq found]
  refine ⟨_, ofExcept_eq _ _, rfl, rfl, ?_⟩
  unfold Workspace.find
  simp only [List.lookup_cons_self]

/-! ## Replies -/

theorem resultRows_eq_cons {reply : Option Reply} {row : Row} {rows : List Row}
    (h : Reply.resultRows reply = .ok (row :: rows)) : reply = some (.rows (row :: rows)) := by
  unfold Reply.resultRows at h
  split at h <;> cases h
  rfl

theorem eq_of_singleRow {id : Int64} {rows : List Row} {row : Row}
    (run : singleRow m id rows w = (.done row, v)) : rows = [row] ∧ v = w := by
  obtain _ | ⟨row', _ | ⟨row₂, rest⟩⟩ := rows
  · obtain ⟨identity, u, -, failed⟩ := exists_of_bind run
    cases failed
  · cases run
    exact ⟨rfl, rfl⟩
  · cases run

theorem eq_of_scalar {what : String} {rows : List Row} {id : Int64}
    (run : scalar what rows w = (.done id, v)) :
    v = w ∧ ∃ row rest cell, rows = row :: rest ∧ row.getIndex? 0 = some cell ∧
      FieldType.long.coerce cell = .ok (.int id) := by
  cases first : rows.head?.bind (·.getIndex? 0) with
  | none =>
    simp only [scalar, first] at run
    cases run
  | some cell =>
    cases coerced : FieldType.long.coerce cell with
    | error e =>
      simp only [scalar, first, coerced] at run
      cases run
    | ok number =>
      cases int : number.int? with
      | none =>
        simp only [scalar, first, coerced, int] at run
        cases run
      | some n =>
        simp only [scalar, first, coerced, int] at run
        cases run
        obtain ⟨row, head, found⟩ := Option.bind_eq_some_iff.1 first
        obtain ⟨rest, rfl⟩ := List.head?_eq_some_iff.1 head
        exact ⟨rfl, row, rest, cell, rfl, found, by rw [coerced, Value.eq_int_of_int? int]⟩

/-! ## Updates and insertions -/

/-- A record is updated where it has been stored, and inserted otherwise. -/
theorem store_eq {known : Option Int64} (found : w.find name = .ok r)
    (built : Mapping.ofType r.type = .ok m) (persisted : m.persistedId w.store r = .ok known) :
    store name w = if known.isSome then update name w else insert name w := by
  have persisted : m.isPersisted w.store r = .ok known.isSome := by
    rw [Mapping.isPersisted, persisted]
    rfl
  rw [store, (looks_record name).bind_eq found, (looks_mappingOf_eq built).bind_eq rfl,
    looks_texts.bind_eq rfl, (looks_ofExcept _).bind_eq persisted]
  split <;> rfl

/-! ## What comes behind an insertion -/

/-- How a record that held the value `v` in the place of its identity has come by the identity `id`:
it had been assigned before, or the database was asked which one it has generated. -/
inductive Identified (c : Nat) (d : Sql.Dialect) (v : Value) (id : Int64) :
    List SentStatement → Prop where
  | assigned (own : v = .int id) (nonneg : 0 ≤ id.toInt) : Identified c d v id []
  | generated {row : Row} {rows : List Row} {cell : Value}
      (unassigned : Mapping.IsUnassigned v) (first : row.getIndex? 0 = some cell)
      (number : FieldType.long.coerce cell = .ok (.int id)) :
      Identified c d v id [⟨c, d.lastIdentity, [], some (.rows (row :: rows))⟩]

/-- How the fields are read back that were left to the database: by one query, which has found
`row`; where there are none, nothing is asked. -/
inductive ReadsBack (c : Nat) (q : Query) (fields : List MappedField) (row : Row) :
    List SentStatement → Prop where
  | nothing (empty : fields = []) : ReadsBack c q fields row []
  | query (filled : fields ≠ []) :
      ReadsBack c q fields row [⟨c, q.text, q.parameters, some (.rows [row])⟩]

/-- Statements were sent, and the named record has become another one. -/
structure Wrote (name : String) (w : Workspace) (sts : List SentStatement) (v : Workspace)
    (r' : Record) : Prop where
  sent : v.database.server.sent = w.database.server.sent ++ sts
  config : v.database.config = w.database.config
  found : v.find name = .ok r'

/-- What a query has found is what the server has answered. -/
theorem asked_of_runQuery {c : Nat} {sql : String} {parameters : List Value} {tag : Option String}
    {rows : List Row} (run : runQuery c sql parameters tag w = (.done rows, v)) :
    ∃ reply, w.Asked [⟨c, sql, parameters, reply⟩] v ∧ Reply.resultRows reply = .ok rows := by
  obtain ⟨reply, u, asked, ⟨l, cut⟩ | answered⟩ :=
    run_asked isReading_resultRows c sql parameters tag w
  · rw [runQuery, cut] at run
    cases run
  · rw [runQuery, answered] at run
    obtain ⟨same, rfl⟩ := Prod.mk.inj run
    have same : Ending.ofExcept (Reply.resultRows reply) = .ofExcept (.ok rows) := same
    exact ⟨reply, asked, Ending.ofExcept_inj same⟩

/-- Statements are sent that leave the records alone, and then one of them is changed. -/
theorem wrote_of_change {α : Type} {sts : List SentStatement} {f : TextStore → Record → Change α}
    {a : α} (asked : w.Asked sts u) (found : w.find name = .ok r)
    (run : change name f u = (.done a, v)) :
    (f w.store r).result = .ok a ∧ v.store = (f w.store r).store ∧
      Wrote name w sts v (f w.store r).record := by
  rw [← asked.find_eq] at found
  obtain ⟨v', changed, database, store, kept⟩ := change_eq found f
  rw [asked.store] at changed store kept
  rw [changed] at run
  obtain ⟨same, rfl⟩ := Prod.mk.inj run
  have same : Ending.ofExcept (f w.store r).result = .ofExcept (.ok a) := same
  refine ⟨Ending.ofExcept_inj same, store, ?_, ?_, kept⟩
  · rw [database, asked.sent]
  · rw [database, asked.config]

section

variable {i : MappedField} {t : RecordType} {c : Nat} {id : Int64}
  (built : Mapping.ofType t = .ok m) (identity : m.identity = some i) (fits : r.Fits u.store t)
  (found : u.find name = .ok r)
include built identity fits found

theorem identified_of_insertedId (number : Mapping.IsIdentity (i.rawValue u.store r))
    (run : insertedId c m name tag u = (.done id, v)) :
    ∃ asks r', Identified c u.database.config.dialect (i.rawValue u.store r) id asks ∧
      Wrote name u asks v r' ∧ r.Rewritten t (· = i.index) u.store v.store r' ∧
      i.rawValue v.store r' = .int id := by
  rw [insertedId, looks_texts.bind_eq rfl, (looks_record name).bind_eq found] at run
  rcases number.assigned_or with ⟨n, int, nonneg⟩ | unassigned
  · rw [(looks_ofExcept _).bind_eq
      (Mapping.persistedId_of_assigned built fits identity int nonneg)] at run
    cases run
    exact ⟨[], r, .assigned int nonneg, ⟨(List.append_nil _).symm, rfl, found⟩, .refl fits, int⟩
  · rw [(looks_ofExcept _).bind_eq
      (Mapping.persistedId_of_unassigned built fits identity unassigned)] at run
    obtain ⟨config, u₀, current, run⟩ := exists_of_bind run
    cases current
    obtain ⟨rows, u₁, queried, run⟩ := exists_of_bind run
    obtain ⟨n, u₂, read, run⟩ := exists_of_bind run
    obtain ⟨_, u₃, changed, run⟩ := exists_of_bind run
    cases run
    obtain ⟨reply, asked, answered⟩ := asked_of_runQuery queried
    obtain ⟨rfl, row, rest, cell, rfl, first, long⟩ := eq_of_scalar read
    obtain rfl := resultRows_eq_cons answered
    obtain ⟨set, store, wrote⟩ := wrote_of_change asked found changed
    obtain ⟨written, value⟩ := Mapping.setIdentity_rewritten built fits identity number set
    rw [← store] at written value
    exact ⟨_, _, .generated unassigned first long, wrote, written, value⟩

omit built fits found in
theorem exists_selectById (id : Int64) (o : BuildOptions) (places : List Nat) :
    ∃ q, m.selectById o id (some places) = .ok q := by
  rw [Mapping.selectById, Mapping.requireIdentity, identity]
  exact ⟨_, rfl⟩

/-- The fields that were left to the database are read back in one row. -/
theorem readsBack_of_readBack
    (run : readBack c m name id ((m.nowFields u.store r).map MappedField.index) tag u =
      (.done (), v)) :
    ∃ q row reads r',
      m.selectById u.database.config.buildOptions id
          (some ((m.nowFields u.store r).map MappedField.index)) = .ok q ∧
        ReadsBack c q (m.nowFields u.store r) row reads ∧ Wrote name u reads v r' ∧
        ((m.nowFields u.store r ≠ [] → m.Carries (m.nowFields u.store r) row) →
          r.Rewritten t (fun j => ∃ f ∈ m.nowFields u.store r, f.index = j) u.store v.store r' ∧
            ∀ f ∈ m.nowFields u.store r, ∃ cell value, row.get? f.column = some cell ∧
              f.type.coerce cell = .ok value ∧
              f.rawValue v.store r' = f.declaration.shape.scalarType.held value) := by
  rw [readBack] at run
  by_cases empty : m.nowFields u.store r = []
  · obtain ⟨q, selected⟩ := exists_selectById identity id u.database.config.buildOptions
      ((m.nowFields u.store r).map MappedField.index)
    rw [empty] at run
    cases run
    refine ⟨q, ⟨[]⟩, [], r, selected, .nothing empty, ⟨(List.append_nil _).symm, rfl, found⟩,
      fun _ => ⟨.refl fits, fun f hf => ?_⟩⟩
    rw [empty] at hf
    cases hf
  · have filled : ((m.nowFields u.store r).map MappedField.index).isEmpty = false := by
      simpa using empty
    rw [filled, if_neg Bool.false_ne_true, looks_options.bind_eq rfl] at run
    obtain ⟨q, u₀, selected, run⟩ := exists_of_bind run
    obtain ⟨selected, same⟩ := (looks_ofExcept _).eq_of_done selected
    rw [same] at run
    obtain ⟨rows, u₁, queried, run⟩ := exists_of_bind run
    obtain ⟨row, u₂, single, run⟩ := exists_of_bind run
    obtain ⟨n, u₃, changed, run⟩ := exists_of_bind run
    cases run
    obtain ⟨reply, asked, answered⟩ := asked_of_runQuery queried
    obtain ⟨rfl, rfl⟩ := eq_of_singleRow single
    obtain rfl := resultRows_eq_cons answered
    obtain ⟨read, store, wrote⟩ := wrote_of_change asked found changed
    refine ⟨q, row, _, _, selected, .query empty, wrote, fun carries => ?_⟩
    rw [store]
    exact Mapping.readRow_rewritten built fits (carries empty) read

/-- What an insertion does once its statement has changed one row. -/
theorem filled_of_inserted {p : PreparedStatement}
    (number : Mapping.IsIdentity (i.rawValue u.store r))
    (stamped : p.stamped = (m.nowFields u.store r).map MappedField.index)
    (run : inserted m name tag p c u = (.done (), v)) :
    ∃ id q row asks reads r',
      Identified c u.database.config.dialect (i.rawValue u.store r) id asks ∧
        m.selectById u.database.config.buildOptions id
          (some ((m.nowFields u.store r).map MappedField.index)) = .ok q ∧
        ReadsBack c q (m.nowFields u.store r) row reads ∧ Wrote name u (asks ++ reads) v r' ∧
        ((m.nowFields u.store r ≠ [] → m.Carries (m.nowFields u.store r) row) →
          m.Filled i id row u.store r v.store r') := by
  rw [inserted, identity, Option.isNone_some, if_neg Bool.false_ne_true] at run
  obtain ⟨id, u₁, identified, run⟩ := exists_of_bind run
  obtain ⟨asks, r₁, asks', wrote, first, value⟩ :=
    identified_of_insertedId built identity fits found number identified
  have same : m.nowFields u₁.store r₁ = m.nowFields u.store r :=
    Mapping.nowFields_eq fits number first value
  rw [stamped, ← same] at run
  obtain ⟨q, row, reads, r', selected, reads', wrote', rest⟩ :=
    readsBack_of_readBack built identity first.fits wrote.found run
  rw [wrote.config, same] at selected
  rw [same] at reads' rest
  refine ⟨id, q, row, asks, reads, r', asks', selected, reads', ⟨?_, ?_, wrote'.found⟩, ?_⟩
  · rw [wrote'.sent, wrote.sent, List.append_assoc]
  · rw [wrote'.config, wrote.config]
  · intro carries
    obtain ⟨second, values⟩ := rest carries
    rw [← same] at second values
    exact Mapping.filled_of_rewritten built fits number first value second values

end

/-! ## Storing -/

/-- A record whose identity is null or a number is updated where that is not negative, and inserted
otherwise.

Behind the recovery of the session, an insertion that succeeds sends everything on one connection:
its statement, the query for the generated identity where none was assigned, and the query for the
fields that were left to the clock of the database where there are any. If the row that is found has
cells for just these fields, the record then has its identity and what was read for them, and is the
same otherwise.

An insertion or an update whose statement fails or does not change one row sends nothing more, fails
and leaves all records as they are. -/
theorem insert_or_update {i : MappedField} (found : w.find name = .ok r)
    (built : Mapping.ofType r.type = .ok m) (identity : m.identity = some i)
    (fits : r.Fits w.store r.type) (number : Mapping.IsIdentity (i.rawValue w.store r)) :
    (∀ n, i.rawValue w.store r = .int n → 0 ≤ n.toInt → store name w = update name w) ∧
      (Mapping.IsUnassigned (i.rawValue w.store r) → store name w = insert name w) ∧
      (∀ v, insert name w = (.done (), v) →
        ∃ recovery p reply asks reads id q row r',
          w.session.Recovers recovery ∧
          m.insertStatement w.database.config.buildOptions w.store r = .ok p ∧
          v.database.server.sent = w.database.server.sent ++
            (recovery ++ ⟨w.standing.connection, p.sql, p.parameters, reply⟩ :: (asks ++ reads)) ∧
          Reply.affectedRows reply = .ok 1 ∧
          Identified w.standing.connection w.database.config.dialect (i.rawValue w.store r) id
            asks ∧
          m.selectById w.database.config.buildOptions id
            (some ((m.nowFields w.store r).map MappedField.index)) = .ok q ∧
          ReadsBack w.standing.connection q (m.nowFields w.store r) row reads ∧
          v.find name = .ok r' ∧
          ((m.nowFields w.store r ≠ [] → m.Carries (m.nowFields w.store r) row) →
            m.Filled i id row w.store r v.store r')) ∧
      ∀ x prepared, IsWriter m w.database.config.buildOptions w.store r name x prepared →
        (∃ e, prepared = .error e ∧ x w = (.failed e, w)) ∨
          ∃ p recovery sts, prepared = .ok p ∧ w.session.Recovers recovery ∧
            (x w).2.database.server.sent = w.database.server.sent ++ (recovery ++ sts) ∧
            (∀ st ∈ sts, st.connection = w.standing.connection) ∧
            (sts = [] → w.Kept (x w).2 ∧ ∀ a, (x w).1 ≠ .done a) ∧
            ∀ st rest, sts = st :: rest →
              st.sql = p.sql ∧ st.parameters = p.parameters ∧
                (Reply.affectedRows st.reply ≠ .ok 1 →
                  rest = [] ∧ w.Kept (x w).2 ∧ ∀ a, (x w).1 ≠ .done a) := by
  refine ⟨fun n int nonneg => ?_, fun unassigned => ?_, fun v run => ?_,
    fun x prepared writer => ?_⟩
  · exact store_eq found built (Mapping.persistedId_of_assigned built fits identity int nonneg)
  · exact store_eq found built (Mapping.persistedId_of_unassigned built fits identity unassigned)
  · obtain ⟨e, -, failed⟩ | ⟨p, prepared, writes⟩ := insert_cases found built
    · rw [failed] at run
      cases run
    · obtain ⟨recovery, sts, recovers, how⟩ := exists_writes
        (does_inserted m name (m.typeName ++ ".insert") p) (m.typeName ++ ".insert") w
      rw [← writes, run] at how
      cases how with
      | unsent _ failed | refused _ failed => exact absurd rfl (failed ())
      | written one _ asked goesOn sent left =>
        have store := asked.store
        have config := asked.config
        have stamped := Mapping.stamped_of_insertStatement identity number prepared
        rw [← store] at fits number stamped
        obtain ⟨id, q, row, asks, reads, r', identified, selected, reads', wrote, filled⟩ :=
          filled_of_inserted built identity fits (asked.find_eq name ▸ found) number stamped goesOn
        rw [store, config] at identified
        rw [store, config] at selected
        rw [store] at reads' filled
        refine ⟨recovery, p, _, asks, reads, id, q, row, r', recovers, prepared, ?_, one,
          identified, selected, reads', left.find_eq name ▸ wrote.found, left.store ▸ filled⟩
        rw [left.sent, wrote.sent, asked.sent]
        simp
  · obtain refused | ⟨p, tag, next, prepared, does, run⟩ := writer.run_cases found built
    · exact .inl refused
    · obtain ⟨recovery, sts, recovers, writes⟩ := exists_writes does tag w
      rw [← run] at writes
      refine .inr ⟨p, recovery, sts, prepared, recovers, writes.sent_eq, ?_⟩
      generalize x w = result at writes
      obtain ⟨ending, v⟩ := result
      dsimp only at writes ⊢
      cases writes with
      | unsent asked failed =>
        refine ⟨fun _ member => (by cases member), fun _ => ⟨asked.toKept, failed⟩, ?_⟩
        rintro _ _ ⟨⟩
      | refused asked failed =>
        refine ⟨List.forall_mem_singleton.2 rfl, fun empty => (by cases empty), ?_⟩
        rintro _ _ ⟨⟩
        exact ⟨rfl, rfl, fun _ => ⟨rfl, asked.toKept, failed⟩⟩
      | written one on =>
        refine ⟨List.forall_mem_cons.2 ⟨rfl, on⟩, fun empty => (by cases empty), ?_⟩
        rintro _ _ ⟨⟩
        exact ⟨rfl, rfl, fun other => absurd one other⟩

/-! ## A visit -/

/-- A type of visits, whose time is left to the database. -/
def visits : RecordType where
  key := 0
  typeName := "Visit"
  table := "visits"
  schema := none
  identity := none
  fields := [⟨"id", "id", .optional (.scalar (.integer .signed64)), false⟩,
    ⟨"page", "page", .scalar .string, true⟩,
    ⟨"seen", "seen", .serverTime (.scalar .date), true⟩]

def visit : Record :=
  ⟨visits, [⟨.optional (.scalar (.integer .signed64)), none⟩, ⟨.scalar .string, "home"⟩,
    ⟨.serverTime (.scalar .date), ServerTime.now⟩]⟩

def seenRow : Row := ⟨[("seen", .date Calendar.Date.epoch)]⟩

/-- A visit on a server that takes it in. -/
def visitWorkspace : Workspace where
  database :=
    { config := {}, server := { rules :=
        [⟨"INSERT", .affected 1, none⟩, ⟨"lastval", .rows [⟨[("lastval", .int 7)]⟩], none⟩,
          ⟨"SELECT seen", .rows [seenRow], none⟩] } }
  records := [("visit", visit)]

theorem fits_visit : visit.Fits visitWorkspace.store visits where
  type := rfl
  shapes := rfl
  valid f hf k found := by
    simp only [visit, List.mem_cons, List.not_mem_nil, or_false] at hf
    rcases hf with rfl | rfl | rfl <;> cases found

theorem carries_seenRow {m : Mapping} (built : Mapping.ofType visits = .ok m) :
    m.Carries (m.nowFields visitWorkspace.store visit) seenRow := by
  cases built
  intro f hf
  rw [Mapping.mem_nowFields]
  simp only [visits, numberFields, List.mem_cons, List.not_mem_nil, or_false] at hf
  rcases hf with rfl | rfl | rfl
  · exact ⟨fun has => (by cases has), fun now => (by cases now.2)⟩
  · exact ⟨fun has => (by cases has), fun now => (by cases now.2)⟩
  · exact ⟨fun _ => ⟨by simp [visits, numberFields], rfl⟩, fun _ => rfl⟩

/-- The visit is inserted; the number that it gets and the time are read back. -/
theorem insert_or_update_visit :
    ∃ m i v r', Mapping.ofType visits = .ok m ∧ m.identity = some i ∧
      Mapping.IsIdentity (i.rawValue visitWorkspace.store visit) ∧
      store "visit" visitWorkspace = insert "visit" visitWorkspace ∧
      insert "visit" visitWorkspace = (.done (), v) ∧
      v.database.server.sent.map SentStatement.sql =
        ["INSERT INTO visits (page,seen) VALUES (?,now())", "SELECT lastval()",
          "SELECT seen FROM visits WHERE id=7"] ∧
      v.find "visit" = .ok r' ∧ m.Filled i 7 seenRow visitWorkspace.store visit v.store r' := by
  obtain ⟨-, stores, inserts, -⟩ := @insert_or_update visitWorkspace "visit" visit _ _ rfl rfl rfl
    fits_visit (.inl rfl)
  have run : insert "visit" visitWorkspace = (.done (), (insert "visit" visitWorkspace).2) :=
    Prod.ext rfl rfl
  obtain ⟨recovery, p, reply, asks, reads, id, q, row, r', recovers, -, sent, -, identified, -,
    reads', found, filled⟩ := inserts _ run
  obtain rfl : recovery = [] := recovers
  refine ⟨_, _, _, r', rfl, rfl, .inl rfl, stores (.inl rfl), run, by decide +kernel, found, ?_⟩
  cases identified with
  | assigned own => cases own
  | generated unassigned first number =>
    cases reads' with
    | nothing empty => exact absurd empty (List.cons_ne_nil _ _)
    | query =>
      have replies := congrArg (List.map SentStatement.reply) sent
      cases replies
      cases first
      cases number
      exact filled fun _ => carries_seenRow rfl

end Session

end DataMapper
