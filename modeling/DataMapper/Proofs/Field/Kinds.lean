import DataMapper.Field.Content
import DataMapper.Proofs.Results

/-!
# Kinds of coerced values

Each field type holds values of one kind. What a coercion gives is null or of that kind, and a value
of that kind is left as it is, so that a second coercion changes nothing. A field refuses a value of
its kind for what the value says and never for its kind: an integer outside of the range, a text
that is no list of pairs, a name that no constant has.

## Main definitions

* `FieldType.kind` — the kind of values that a field type holds.
* `Scalar.Refuses` — the values of its kind that a scalar refuses, and why.

## Main statements

* `FieldType.coerce_eq_self_iff` — which values a coercion leaves as they are.
* `Scalar.settled_of_coerce` — a coerced value is settled.
-/

namespace DataMapper

namespace FieldType

/-- The kind of values that the field type holds. -/
def kind : FieldType → ValueKind
  | bool => .bool
  | byte | short | int | long => .int
  | float | double => .float
  | decimal => .decimal
  | char => .char
  | string | properties | localized => .text
  | bytes => .bytes
  | date => .date
  | time => .time
  | timestamp => .timestamp
  | timestampUtc => .timestampUtc
  | uuid => .uuid
  | json => .json
  | enumName => .enumName

theorem kind_of_coerceInteger {expected : String} {v w : Value}
    (h : coerceInteger expected v = .ok w) : w.kind = .int := by
  unfold coerceInteger at h
  grind [Value.kind]

/-- What a coercion gives is null or of the kind that the field type holds. -/
theorem kind_of_coerce {type : FieldType} {v w : Value} (h : type.coerce v = .ok w) :
    w = .null ∨ w.kind = type.kind := by
  unfold coerce at h
  dsimp only at h
  split at h <;>
    grind [Value.kind, kind, kind_of_coerceInteger, Option.map_eq_some_iff]

theorem coerce_null (type : FieldType) : type.coerce .null = .ok .null := by
  cases type <;> rfl

/-- A text of one character is coerced to the character. -/
theorem coerce_char (c : Char) : char.coerce (.text (String.ofList [c])) = .ok (.char c) := by
  have text : (String.ofList [c]).toList = [c] := String.toList_ofList
  unfold coerce
  dsimp only
  rw [text]

/-- A value of the kind that the field type holds is left as it is. -/
theorem coerce_of_kind {type : FieldType} {v : Value} (held : v.kind = type.kind) :
    type.coerce v = .ok v := by
  cases type <;> cases v <;> cases held <;> rfl

theorem coerce_eq_self_iff {type : FieldType} {v : Value} :
    type.coerce v = .ok v ↔ v = .null ∨ v.kind = type.kind := by
  refine ⟨kind_of_coerce, ?_⟩
  rintro (rfl | held)
  · exact type.coerce_null
  · exact coerce_of_kind held

end FieldType

namespace Scalar

/-- A value of the kind that a scalar holds, and the error with which the scalar refuses it. -/
inductive Refuses : Scalar → Value → ConversionError → Prop
  | outOfRange {k : IntegerKind} {n : Int64} (outside : ¬ (k.low ≤ n.toInt ∧ n.toInt ≤ k.high)) :
      Refuses (integer k) (.int n) (.invalid k.typeName .int .outOfRange)
  | properties {s : String} {e : Text.PairsError} (undecoded : decodeMap s = .error e) :
      Refuses properties (.text s) (.invalid "Properties" .text (.pairs e))
  | localized {s : String} {e : Text.PairsError} (undecoded : decodeMap s = .error e) :
      Refuses localized (.text s) (.invalid "LocalizedString" .text (.pairs e))
  | unknownConstant {e : Enumeration} {name : String} (unknown : name ∉ e.stored) :
      Refuses (enumeration e) (.enumName name) (.invalid e.typeName .enumName .unknownConstant)

theorem mapOfValue_eq_error_iff {typeName : String} {s : String} {e : ConversionError} :
    mapOfValue typeName (.text s) = .error e ↔
      ∃ fault, decodeMap s = .error fault ∧ e = .invalid typeName .text (.pairs fault) := by
  unfold mapOfValue
  grind [Value.kind]

theorem constantOfValue_eq_error_iff {c : Enumeration} {name : String} {e : ConversionError} :
    constantOfValue c (.enumName name) = .error e ↔
      name ∉ c.stored ∧ e = .invalid c.typeName .enumName .unknownConstant := by
  unfold constantOfValue
  grind [Value.kind, List.finIdxOf?_eq_none_iff]

/-- Of the values of its kind a scalar refuses those that say something which it cannot hold. -/
theorem ofValue_eq_error_iff {st : TextStore} {s : Scalar} {v : Value}
    (held : v.kind = s.fieldType.kind) {e : ConversionError} :
    s.ofValue st v = .error e ↔ s.Refuses v e := by
  cases s with
  | integer k =>
    obtain ⟨n, rfl⟩ : ∃ n, v = .int n := by
      cases k <;> cases v <;> cases held <;> exact ⟨_, rfl⟩
    change (if h : k.low ≤ n.toInt ∧ n.toInt ≤ k.high then _ else _ : Except _ _) = _ ↔ _
    split
    · next inside =>
      refine iff_of_false (by simp) ?_
      rintro ⟨outside⟩
      exact outside inside
    · next outside =>
      constructor
      · rintro ⟨⟩
        exact .outOfRange outside
      · rintro ⟨⟩
        rfl
  | properties =>
    cases v <;> cases held
    next s =>
    refine (Except.map_eq_error_iff.trans mapOfValue_eq_error_iff).trans ⟨?_, ?_⟩
    · rintro ⟨fault, undecoded, rfl⟩
      exact .properties undecoded
    · exact fun | .properties undecoded => ⟨_, undecoded, rfl⟩
  | localized =>
    cases v <;> cases held
    next s =>
    refine (Except.map_eq_error_iff.trans mapOfValue_eq_error_iff).trans ⟨?_, ?_⟩
    · rintro ⟨fault, undecoded, rfl⟩
      exact .localized undecoded
    · exact fun | .localized undecoded => ⟨_, undecoded, rfl⟩
  | enumeration c =>
    cases v <;> cases held
    next name =>
    refine (Except.map_eq_error_iff.trans constantOfValue_eq_error_iff).trans ⟨?_, ?_⟩
    · rintro ⟨unknown, rfl⟩
      exact .unknownConstant unknown
    · exact fun | .unknownConstant unknown => ⟨unknown, rfl⟩
  | single | double | bool | decimal | char | string | bytes | date | time | timestamp
  | timestampUtc | uuid | json =>
    cases v <;> cases held
    exact iff_of_false (by simp [ofValue]) (by rintro ⟨⟩)

/-- A coerced value is coerced to itself, and where it is not null a scalar refuses it only for what
it says: as an integer outside of the range, as a text that is no list of pairs or as a name that no
constant is stored under. -/
theorem settled_of_coerce {s : Scalar} {v w : Value} (coerced : s.fieldType.coerce v = .ok w) :
    s.fieldType.coerce w = .ok w ∧
      (w ≠ .null → ∀ (st : TextStore) (e : ConversionError),
        s.ofValue st w = .error e ↔ s.Refuses w e) := by
  have kind := FieldType.kind_of_coerce coerced
  refine ⟨FieldType.coerce_eq_self_iff.2 kind, fun present st e => ?_⟩
  exact ofValue_eq_error_iff (kind.resolve_left present)

/-- A whole decimal becomes an integer that eight bits cannot hold, and is refused for its size. -/
theorem settled_of_coerce_byte :
    (integer .signed8).fieldType.coerce (.decimal (.ofInt 200)) = .ok (.int 200) ∧
      (integer .signed8).fieldType.coerce (.int 200) = .ok (.int 200) ∧
      (integer .signed8).Refuses (.int 200) (.invalid "i8" .int .outOfRange) := by
  have coerced : (integer .signed8).fieldType.coerce (.decimal (.ofInt 200)) = .ok (.int 200) :=
    rfl
  obtain ⟨again, refused⟩ := settled_of_coerce coerced
  exact ⟨coerced, again, (refused (by simp) .empty _).1 rfl⟩

end Scalar

end DataMapper
