import DataMapper.Declaration.Derived
import DataMapper.Proofs.Field.Assignment
import DataMapper.Proofs.Postgres.Cells

/-!
# Contents that are written to their columns and read again

A field type declares the type of its column. A value of a field is sent as a parameter of that
type, read as a value of it and brought into the kind that the field type holds: it is the same
value again, whatever kind of value the column holds it in. The content made from it is the content
that was written, except for constants of an enumeration that share their name with an earlier
one.

## Main definitions

* `FieldType.Rereads` — what is read of a value that has been written to its column.
* `FieldShape.Alike` — contents that are equal.
* `FieldShape.IsHidden` — constants stored under the name of an earlier one.

## Main statements

* `FieldShape.rereads_toValue` — a value comes back from its column.
* `FieldShape.comesBack_iff` — a content comes back from its column.
-/

namespace DataMapper

open Number Calendar Text Postgres

/-! ## Declared columns -/

/-- The type of a column that is declared with these words. -/
def Postgres.ColumnType.ofDeclaration (declaration : String) : ColumnType :=
  match declaration with
  | "BOOLEAN" => bool
  | "SMALLINT" => int2
  | "INTEGER" => int4
  | "BIGINT" => int8
  | "REAL" => float4
  | "DOUBLE PRECISION" => float8
  | "DECIMAL" => numeric
  | "CHAR(1)" => bpchar
  | "VARCHAR(64)" => varchar
  | "TEXT" => text
  | "BYTEA" => bytea
  | "DATE" => date
  | "TIME" => time
  | "TIMESTAMP" => timestamp
  | "TIMESTAMP WITH TIME ZONE" => timestamptz
  | "UUID" => uuid
  | "JSON" => json
  | words => other words

namespace FieldType

/-- The type of the column that is declared for the field type. -/
def column (type : FieldType) : ColumnType := .ofDeclaration type.columnType

/-- A value is written to the column of the field type, read from it and coerced to another one. -/
def Rereads (type : FieldType) (v w : Value) : Prop :=
  ∃ cell u, bind type.column v = .ok cell ∧ (∀ name, decode name type.column cell = .ok u) ∧
    type.coerce u = .ok w

theorem rereads_null (type : FieldType) : type.Rereads .null .null :=
  ⟨none, .null, rfl, fun _ => by cases type <;> rfl, coerce_null type⟩

theorem rereads_of_travels {type : FieldType} {v u w : Value} (travels : Travels type.column v u)
    (coerced : type.coerce u = .ok w) : type.Rereads v w := by
  obtain ⟨bytes, bound, read⟩ := travels
  exact ⟨some bytes, u, bound, read, coerced⟩

end FieldType

/-! ## Values -/

theorem Value.Same.isNull_eq {v w : Value} (same : v.Same w) : w.isNull = v.isNull := by
  obtain rfl | ⟨d, e, rfl, rfl, -⟩ := same <;> rfl

theorem Value.Same.isServerNow_eq {v w : Value} (same : v.Same w) :
    w.isServerNow = v.isServerNow := by
  obtain rfl | ⟨d, e, rfl, rfl, -⟩ := same <;> rfl

/-- An integer is in the range that its column has. -/
theorem IntegerKind.rereads_int {k : IntegerKind} (n : k.Range) :
    k.fieldType.Rereads (.int (Int64.ofInt n.val)) (.int (Int64.ofInt n.val)) := by
  have word := IntegerKind.toInt_ofInt n
  obtain ⟨n, least, most⟩ := n
  dsimp only at word ⊢
  cases k <;> simp only [low, high] at least most <;>
    exact FieldType.rereads_of_travels
      (travels_signed (fun _ => rfl) (fun _ => rfl) (by decide) (by omega) (by omega)) rfl

/-- A value of a scalar comes back from its column. -/
theorem Scalar.rereads_toValue {st : TextStore} {s : Scalar} {c : s.Content}
    (plain : (s.toValue st c).IsPlain) :
    ∃ w, s.fieldType.Rereads (s.toValue st c) w ∧ (s.toValue st c).Same w := by
  have itself (travels : Travels s.fieldType.column (s.toValue st c) (s.toValue st c)) :
      ∃ w, s.fieldType.Rereads (s.toValue st c) w ∧ (s.toValue st c).Same w :=
    ⟨_, FieldType.rereads_of_travels travels (s.coerce_toValue st c), .refl _⟩
  cases s with
  | integer k => exact ⟨_, k.rereads_int c, .refl _⟩
  | single => exact itself (travels_single c)
  | double => exact itself (travels_double c)
  | bool => exact itself (travels_bool c)
  | decimal =>
    obtain ⟨e, travels, same⟩ := travels_decimal c
    exact ⟨.decimal e, FieldType.rereads_of_travels travels rfl, .inr ⟨c, e, rfl, rfl, same⟩⟩
  | char =>
    have travels : Travels .bpchar (.char c) (.text (String.ofList [c])) := travels_text rfl rfl rfl
    exact ⟨.char c, FieldType.rereads_of_travels travels (FieldType.coerce_char c), .refl _⟩
  | string | properties | localized => exact itself (travels_text rfl rfl rfl)
  | bytes => exact itself (travels_bytes c)
  | date => exact itself (travels_date c)
  | time => exact itself (travels_time plain)
  | timestamp => exact itself (travels_timestamp plain)
  | timestampUtc => exact itself (travels_timestamptz plain)
  | uuid => exact itself (travels_uuid c)
  | json => exact itself (travels_json plain)
  | enumeration e =>
    have travels : Travels .varchar (.enumName (e.stored.get c)) (.text (e.stored.get c)) :=
      travels_text rfl rfl rfl
    exact ⟨.enumName (e.stored.get c), FieldType.rereads_of_travels travels rfl, .refl _⟩

/-- A value of a field comes back from the column that is declared for it. -/
theorem FieldShape.rereads_toValue {st : TextStore} {t : FieldShape} {c : t.Content}
    (now : (t.toValue st c).isServerNow = false) (plain : (t.toValue st c).IsPlain) :
    ∃ w, t.fieldType.Rereads (t.toValue st c) w ∧ (t.toValue st c).Same w := by
  induction t with
  | scalar s => exact Scalar.rereads_toValue plain
  | optional t ih =>
    cases c with
    | none => exact ⟨.null, FieldType.rereads_null _, .refl _⟩
    | some c => exact ih now plain
  | serverTime t ih =>
    cases c with
    | now => cases now
    | literal c => exact ih now plain

/-! ## Contents -/

/-- An earlier constant is stored under the same name. -/
def Enumeration.IsHidden (e : Enumeration) (i : Fin e.stored.length) : Prop :=
  ∃ j < i, e.stored.get j = e.stored.get i

namespace Scalar

/-- Equal contents. Decimals are equal as numbers, localized texts by what they read, and what is
not a number is alike. -/
def Alike (st st' : TextStore) : (s : Scalar) → s.Content → s.Content → Prop
  | decimal, d, e => d.equal e = true
  | single, x, y => x = y ∨ x.isNaN = true ∧ y.isNaN = true
  | localized, h, k => st.read h = st'.read k
  | _, c, c' => c = c'

def IsHidden : (s : Scalar) → s.Content → Prop
  | enumeration e, i => e.IsHidden i
  | _, _ => False

/-- The first constant with the name of another one is that one, unless it is hidden. -/
theorem constantOfValue_iff (e : Enumeration) (i : Fin e.stored.length) :
    ∃ j, constantOfValue e (.enumName (e.stored.get i)) = .ok j ∧ (i = j ↔ ¬ e.IsHidden i) := by
  cases found : e.stored.finIdxOf? (e.stored.get i) with
  | none => exact absurd (List.get_mem _ i) (List.finIdxOf?_eq_none_iff.1 found)
  | some j =>
    obtain ⟨same, first⟩ := List.finIdxOf?_eq_some_iff.1 found
    refine ⟨j, by simp only [constantOfValue, found], ?_⟩
    constructor
    · rintro rfl ⟨k, before, equal⟩
      exact first k before equal
    · intro shown
      rcases Nat.lt_trichotomy j i with before | there | behind
      · exact absurd ⟨j, before, same⟩ shown
      · exact Fin.ext there.symm
      · exact absurd rfl (first i behind)

/-- Contents with the same value are alike, unless it is narrowed or the name of a constant. -/
theorem alike_of_toValue {st st' : TextStore} {s : Scalar} {c c' : s.Content} (wide : s ≠ single)
    (unnamed : ∀ e, s ≠ enumeration e) (same : s.toValue st' c' = s.toValue st c) :
    s.Alike st st' c c' := by
  cases s with
  | single => exact absurd rfl wide
  | enumeration e => exact absurd rfl (unnamed e)
  | integer k =>
    have words := congrArg Int64.toInt (Value.int.inj same)
    have equal := (IntegerKind.toInt_ofInt c').symm.trans (words.trans (IntegerKind.toInt_ofInt c))
    exact Subtype.ext equal.symm
  | decimal =>
    obtain rfl : c' = c := Value.decimal.inj same
    exact beq_self_eq_true _
  | properties => exact (encodeMap_inj.1 (Value.text.inj same)).symm
  | localized => exact (encodeMap_inj.1 (Value.text.inj same)).symm
  | double | bool | char | string | bytes | date | time | timestamp | timestampUtc | uuid | json =>
    injection same with same
    exact same.symm

/-- What is made from the value of a scalar is the content that was written. -/
theorem ofValue_same (st : TextStore) {st₀ : TextStore} {s : Scalar} {c : s.Content} {w : Value}
    (same : (s.toValue st₀ c).Same w) :
    ∃ c' st', s.ofValue st w = .ok (c', st') ∧ (s.Alike st₀ st' c c' ↔ ¬ s.IsHidden c) := by
  have shown {p : Prop} (h : p) : p ↔ ¬ False := ⟨fun _ => not_false, fun _ => h⟩
  obtain rfl | ⟨d, e, written, rfl, equal⟩ := same
  · cases s with
    | single =>
      refine ⟨_, st, rfl, shown ?_⟩
      by_cases number : c.isNaN = false
      · exact .inl (Binary.convert_single_convert_double number).symm
      · have none : c.isNaN = true := Bool.not_eq_false _ ▸ number
        have wide := Binary.convert_of_isNaN (g := .double) (by decide) none
        have narrow := Binary.convert_of_isNaN (g := .single) (by decide) wide.1
        exact .inr ⟨none, narrow.1⟩
    | enumeration e =>
      obtain ⟨j, found, first⟩ := constantOfValue_iff e c
      exact ⟨j, st, congrArg (Except.map fun i => (i, st)) found, first⟩
    | integer | double | bool | decimal | char | string | bytes | date | time | timestamp
    | timestampUtc | uuid | json | properties | localized =>
      obtain ⟨c', st', made, takes⟩ := ofValue_toValue st (by simp) c
      exact ⟨c', st', made, shown (alike_of_toValue (by simp) (by simp) takes.value)⟩
  · cases s <;> cases written
    exact ⟨e, st, rfl, shown equal⟩

end Scalar

namespace FieldShape

/-- Both contents are absent, left to the clock, or alike. -/
def Alike (st st' : TextStore) : (t : FieldShape) → t.Content → t.Content → Prop
  | scalar s, c, c' => s.Alike st st' c c'
  | optional _, none, none => True
  | optional t, some c, some c' => t.Alike st st' c c'
  | serverTime _, .now, .now => True
  | serverTime t, .literal c, .literal c' => t.Alike st st' c c'
  | _, _, _ => False

/-- The content is a constant stored under the name of an earlier one. -/
def IsHidden : (t : FieldShape) → t.Content → Prop
  | scalar s, c => s.IsHidden c
  | optional t, some c => t.IsHidden c
  | serverTime t, .literal c => t.IsHidden c
  | optional _, none | serverTime _, .now => False

/-- Nothing is left to the database's clock, and null stands for nothing else than an absent
content. -/
def IsSettled (st : TextStore) : (t : FieldShape) → t.Content → Prop
  | scalar _, _ => True
  | optional _, none => True
  | optional t, some c => (t.toValue st c).isNull = false ∧ t.IsSettled st c
  | serverTime t, .literal c => t.IsSettled st c
  | serverTime _, .now => False

theorem isServerNow_toValue {st : TextStore} {t : FieldShape} {c : t.Content}
    (settled : t.IsSettled st c) : (t.toValue st c).isServerNow = false := by
  induction t with
  | scalar s => cases s <;> rfl
  | optional t ih =>
    cases c with
    | none => rfl
    | some c => exact ih settled.2
  | serverTime t ih =>
    cases c with
    | now => cases settled
    | literal c => exact ih settled

/-- What is made from the value of a content is the content that was written. -/
theorem ofValue_same (st : TextStore) {st₀ : TextStore} {t : FieldShape} {c : t.Content} {w : Value}
    (settled : t.IsSettled st₀ c) (same : (t.toValue st₀ c).Same w) :
    ∃ c' st', t.ofValue st w = .ok (c', st') ∧ (t.Alike st₀ st' c c' ↔ ¬ t.IsHidden c) := by
  induction t with
  | scalar s => exact Scalar.ofValue_same st same
  | optional t ih =>
    cases c with
    | none =>
      have null : w.isNull = true := same.isNull_eq
      exact ⟨none, st, by rw [ofValue, if_pos null], fun _ => not_false, fun _ => trivial⟩
    | some c =>
      have present : w.isNull = false := same.isNull_eq.trans settled.1
      obtain ⟨c', st', made, alike⟩ := ih settled.2 same
      refine ⟨some c', st', ?_, alike⟩
      rw [ofValue, present, made]
      rfl
  | serverTime t ih =>
    cases c with
    | now => cases settled
    | literal c =>
      have past : w.isServerNow = false :=
        same.isServerNow_eq.trans (isServerNow_toValue (t := t) settled)
      obtain ⟨c', st', made, alike⟩ := ih settled same
      refine ⟨.literal c', st', ?_, alike⟩
      rw [ofValue, past, made]
      rfl

/-- A content comes back from the column that is declared for its field: it is written, read,
coerced and made again, and it is the content that was written exactly when it is not the constant
of an enumeration that is stored under the name of an earlier constant. -/
theorem comesBack_iff (st : TextStore) {st₀ : TextStore} {t : FieldShape} {c : t.Content}
    (settled : t.IsSettled st₀ c) (plain : (t.toValue st₀ c).IsPlain) :
    ∃ w c' st', t.fieldType.Rereads (t.toValue st₀ c) w ∧ t.ofValue st w = .ok (c', st') ∧
      (t.Alike st₀ st' c c' ↔ ¬ t.IsHidden c) := by
  obtain ⟨w, reads, same⟩ := rereads_toValue (isServerNow_toValue settled) plain
  obtain ⟨c', st', made, alike⟩ := ofValue_same st settled same
  exact ⟨w, c', st', reads, made, alike⟩

/-- The first moment of 1970-01-01, in a field that could be left to the clock. -/
def firstMoment : (serverTime (scalar .timestampUtc)).Content :=
  .literal (Timestamp.midnight Date.epoch : Timestamp)

theorem comesBack_firstMoment :
    ((serverTime (scalar .timestampUtc)).IsSettled .empty firstMoment ∧
      ((serverTime (scalar .timestampUtc)).toValue .empty firstMoment).IsPlain) ∧
    ∃ w c' st', FieldType.timestampUtc.Rereads
        ((serverTime (scalar .timestampUtc)).toValue .empty firstMoment) w ∧
      (serverTime (scalar .timestampUtc)).ofValue .empty w = .ok (c', st') ∧
      ((serverTime (scalar .timestampUtc)).Alike .empty st' firstMoment c' ↔
        ¬ (serverTime (scalar .timestampUtc)).IsHidden firstMoment) := by
  have settled : (serverTime (scalar .timestampUtc)).IsSettled .empty firstMoment := trivial
  have plain : ((serverTime (scalar .timestampUtc)).toValue .empty firstMoment).IsPlain :=
    ⟨by decide, rfl⟩
  exact ⟨⟨settled, plain⟩, comesBack_iff .empty settled plain⟩

end FieldShape

/-- Two variants that are renamed to one name. -/
def twinVariants : Declaration where
  name := "Side"
  generics := []
  attributes := []
  shape := .variants
    [⟨"Left", [⟨"record", [⟨"rename", .text "x"⟩]⟩], false⟩,
      ⟨"Right", [⟨"record", [⟨"rename", .text "x"⟩]⟩], false⟩]

/-- The enumeration with these variants. -/
def twins : Enumeration := ⟨"Side", ["x", "x"], ⟨0, by decide⟩⟩

/-- The second of two constants with one name comes back as the first. -/
theorem not_comesBack_twins :
    twinVariants.storedNames = .ok [("Left", "x"), ("Right", "x")] ∧
      ∃ w st', FieldType.enumName.Rereads
          ((Scalar.enumeration twins).toValue .empty ⟨1, by decide⟩) w ∧
        (Scalar.enumeration twins).ofValue .empty w = .ok (⟨0, by decide⟩, st') ∧
        ¬ (Scalar.enumeration twins).Alike .empty st' ⟨1, by decide⟩ ⟨0, by decide⟩ := by
  have travels : Travels .varchar (.enumName "x") (.text "x") := travels_text rfl rfl rfl
  refine ⟨rfl, .enumName "x", .empty, FieldType.rereads_of_travels travels rfl, rfl, ?_⟩
  intro same
  cases same

end DataMapper
