import DataMapper.Proofs.Calendar.WrittenForms
import DataMapper.Proofs.Field.Kinds
import DataMapper.Proofs.Field.WholeNumbers
import DataMapper.Proofs.Sql.StringLiterals
import DataMapper.Proofs.Text.Hexadecimal

/-!
# Literals read into fields

The text of a literal, without its quotes where it has them, is a value that a field of the same
kind takes for the value that has been written: truth values by their words, integers by their
digits, characters and texts as they are, identifiers, days and times by their forms. A leap second
comes back from the end of a minute only; within it, the second behind it has the same text. A point
in universal time comes back in the years of four digits only, since neither of the two forms that
are read for it takes a longer year together with the distance to universal time.

## Main definitions

* `Sql.unquoted` — a literal without its quotes.
* `FieldType.readsLiterals` — the types whose values are read from their literals.
* `Value.InLiteral` — the values that come back from their literals.

## Main statements

* `FieldType.coerce_unquoted_iff` — which values come back from their literals.
* `FieldType.coerce_unquoted_midMinute` — a leap second within a minute does not.
-/

namespace DataMapper

open Number Calendar Text

/-! ## Texts without blanks around them -/

namespace Text

theorem trimRight_of_getLast {cs : List Char} (solid : ∀ c ∈ cs.getLast?, isBlank c = false) :
    trimRight cs = cs := by
  have front : trimLeft cs.reverse = cs.reverse :=
    trimLeft_of_head fun c last => solid c (by rwa [← List.head?_reverse])
  rw [trimRight, ← trimLeft, front, List.reverse_reverse]

end Text

theorem trimmed_ofList {cs : List Char} (first : ∀ c ∈ cs.head?, isBlank c = false)
    (last : ∀ c ∈ cs.getLast?, isBlank c = false) : trimmed (String.ofList cs) = cs := by
  simp [trimmed, trim, trimLeft_of_head first, trimRight_of_getLast last]

/-- A text without any blanks is left as it is. -/
theorem trimmed_of_solid {cs : List Char} (solid : ∀ c ∈ cs, isBlank c = false) :
    trimmed (String.ofList cs) = cs := by
  apply trimmed_ofList
  · intro c first
    exact solid c (List.mem_of_mem_head? first)
  · intro c last
    exact solid c (List.mem_of_mem_getLast? last)

theorem trimmed_between {a b : List Char} (begins : a ≠ []) (ends : b ≠ [])
    (front : ∀ c ∈ a, isBlank c = false) (back : ∀ c ∈ b, isBlank c = false)
    (middle : List Char) :
    trimmed (String.ofList (a ++ (middle ++ b))) = a ++ (middle ++ b) := by
  apply trimmed_ofList
  · intro c first
    rw [List.head?_append_of_ne_nil _ begins] at first
    exact front c (List.mem_of_mem_head? first)
  · intro c last
    rw [← List.append_assoc, List.getLast?_append_of_ne_nil _ ends] at last
    exact back c (List.mem_of_mem_getLast? last)

namespace Json

theorem solid_integerChars (n : Int) : ∀ c ∈ integerChars n, isBlank c = false := by
  intro c
  have digit : c ∈ Nat.toDigits 10 n.natAbs → isBlank c = false := fun mem =>
    isBlank_of_isDigit (isDigit_of_mem_toDigits mem)
  unfold integerChars
  split
  · rw [List.mem_cons]
    rintro (rfl | mem)
    · rfl
    · exact digit mem
  · exact digit

end Json

namespace Calendar

theorem solid_paddedDigits {length n : Nat} :
    ∀ c ∈ Decimal.paddedDigits length n, isBlank c = false :=
  fun _ mem => isBlank_of_isDigit (isDigit_of_mem_paddedDigits mem)

theorem Date.solid_chars (d : Date) : ∀ c ∈ d.chars, isBlank c = false := by
  have year : ∀ c ∈ yearChars d.year, isBlank c = false := by
    have signs : isBlank '-' = false ∧ isBlank '+' = false := by decide
    unfold yearChars
    grind [solid_paddedDigits]
  simp only [chars, List.forall_mem_append, List.forall_mem_cons]
  exact ⟨⟨year, rfl, solid_paddedDigits⟩, rfl, solid_paddedDigits⟩

theorem TimeOfDay.solid_chars (t : TimeOfDay) : ∀ c ∈ t.chars, isBlank c = false := by
  have fraction (nanos : Nat) : ∀ c ∈ fractionChars nanos, isBlank c = false := by
    have point : isBlank '.' = false := rfl
    unfold fractionChars
    grind [solid_paddedDigits]
  simp only [chars, clockChars, List.forall_mem_append, List.forall_mem_cons]
  exact ⟨⟨⟨solid_paddedDigits, rfl, solid_paddedDigits⟩, rfl, solid_paddedDigits⟩, fraction _⟩

end Calendar

theorem Uuid.solid_text (u : Uuid) : ∀ c ∈ u.text.toList, isBlank c = false := by
  have digit {n : Nat} (small : n < 16) : isBlank n.digitChar = false := by
    revert n; decide
  have group (start length : Nat) : ∀ c ∈ u.digits start length, isBlank c = false := by
    intro c mem
    rw [digits, hexOfBytes, String.toList_ofList, List.mem_flatMap] at mem
    obtain ⟨b, -, half⟩ := mem
    have word := b.toNat_lt
    rcases List.mem_pair.1 half with rfl | rfl
    · exact digit (by omega)
    · exact digit (by omega)
  simp only [toList_text, List.forall_mem_append, List.forall_mem_cons]
  exact ⟨group _ _, rfl, group _ _, rfl, group _ _, rfl, group _ _, rfl, group _ _⟩

/-! ## Literals without their quotes -/

namespace Sql

/-- The content of a literal between quotes, where a doubled quote stands for one; any other text as
it is. -/
def unquoted (literal : String) : String :=
  match literal.toList with
  | '\'' :: cs =>
    match readQuoted false cs with
    | some (content, []) => String.ofList content
    | _ => literal
  | _ => literal

theorem unquoted_quoted (cs : List Char) :
    unquoted (String.ofList (quoted cs)) = String.ofList cs := by
  have read : readQuoted false (cs.flatMap quoteChar ++ ['\'']) = some (cs, []) :=
    readQuoted_quoteChars (by simp)
  simp [unquoted, quoted, read]

theorem unquoted_of_bare {cs : List Char} (bare : ∀ c ∈ cs.head?, c ≠ '\'') :
    unquoted (String.ofList cs) = String.ofList cs := by
  unfold unquoted
  split
  · next same =>
    rw [String.toList_ofList] at same
    subst same
    exact absurd rfl (bare '\'' rfl)
  · rfl

theorem unquoted_integerChars (n : Int) :
    unquoted (String.ofList (Json.integerChars n)) = String.ofList (Json.integerChars n) := by
  refine unquoted_of_bare fun c first => ?_
  have mem := List.mem_of_mem_head? first
  unfold Json.integerChars at mem
  have digit (digits : c ∈ Nat.toDigits 10 n.natAbs) : c ≠ '\'' := by
    rintro rfl
    exact absurd (isDigit_of_mem_toDigits digits) (by decide)
  grind

end Sql

/-! ## Coerced literals -/

namespace Number

theorem digitsNumber_toDigits (n : Nat) : digitsNumber (Nat.toDigits 10 n) = n := by
  have value := digitsValue_eq 0 (Nat.toDigits 10 n)
  rw [digitsValue_toDigits] at value
  omega

theorem decimalInteger?_integerChars (n : Int) :
    decimalInteger? (Json.integerChars n) = some n := by
  have digits : ∀ c ∈ Nat.toDigits 10 n.natAbs, c.isDigit = true := fun _ =>
    isDigit_of_mem_toDigits
  unfold Json.integerChars
  split
  · next negative =>
    have sign : readSign ('-' :: Nat.toDigits 10 n.natAbs) = (true, Nat.toDigits 10 n.natAbs) :=
      rfl
    refine (decimalInteger?_eq_some_iff sign).2 ⟨Nat.toDigits_ne_nil, digits, ?_⟩
    rw [if_pos rfl, digitsNumber_toDigits]
    omega
  · next positive =>
    have sign : readSign (Nat.toDigits 10 n.natAbs) = (false, Nat.toDigits 10 n.natAbs) := by
      unfold readSign
      split
      · next same => exact absurd (digits '-' (by simp [same])) (by decide)
      · next same => exact absurd (digits '+' (by simp [same])) (by decide)
      · rfl
    refine (decimalInteger?_eq_some_iff sign).2 ⟨Nat.toDigits_ne_nil, digits, ?_⟩
    rw [if_neg (by decide), digitsNumber_toDigits]
    omega

end Number

namespace FieldType

/-- The types whose values are written in a form that the type reads. -/
def readsLiterals : FieldType → Bool
  | bool | byte | short | int | long | char | string | date | time | timestamp | timestampUtc
  | uuid | enumName | properties | localized => true
  | float | double | decimal | bytes | json => false

theorem coerce_integerChars {type : FieldType} (integer : type.isInteger = true) (n : Int64) :
    type.coerce (.text (String.ofList (Json.integerChars n.toInt))) = .ok (.int n) := by
  rw [coerce_of_isInteger integer (by simp), coerceInteger_eq_ok_iff]
  refine ⟨n, rfl, ?_⟩
  rw [Value.number?, trimmed_of_solid (Json.solid_integerChars _), decimalInteger?_integerChars,
    Option.map_some]

theorem coerce_boolLiteral (b : Bool) :
    bool.coerce (.text (Sql.unquoted (Sql.renderLiteral (.bool b)))) = .ok (.bool b) := by
  have word : truthOfWord? (lowerAscii (trimmed (Sql.unquoted (Sql.renderLiteral (.bool b))))) =
      some b := by
    cases b <;> decide
  unfold coerce
  dsimp only
  rw [word]

theorem coerce_dateChars (d : Date) :
    date.coerce (.text (String.ofList d.chars)) = .ok (.date d) := by
  have read : readDate (trimmed (String.ofList d.chars)) = some d := by
    rw [trimmed_of_solid d.solid_chars, readDate_chars]
  unfold coerce
  dsimp only
  rw [read]
  rfl

theorem coerce_timeChars (t : TimeOfDay) :
    time.coerce (.text (String.ofList t.chars)) = .ok (.time t.shown) := by
  have read : readTime (trimmed (String.ofList t.chars)) = some t.shown := by
    rw [trimmed_of_solid t.solid_chars, readTime_chars]
  unfold coerce
  dsimp only
  rw [read]
  rfl

theorem trimmed_timestampChars (t : Timestamp) (zone : List Char)
    (solid : ∀ c ∈ zone, isBlank c = false) :
    trimmed (String.ofList (t.chars ' ' ++ zone)) = t.chars ' ' ++ zone := by
  have day : t.date.chars ≠ [] := by simp [Date.chars]
  have clock : t.time.chars ++ zone ≠ [] := by simp [TimeOfDay.chars, TimeOfDay.clockChars]
  have parts : t.chars ' ' ++ zone = t.date.chars ++ ([' '] ++ (t.time.chars ++ zone)) := by
    simp [Timestamp.chars]
  rw [parts]
  exact trimmed_between day clock t.date.solid_chars
    (List.forall_mem_append.2 ⟨t.time.solid_chars, solid⟩) [' ']

theorem coerce_timestampChars (t : Timestamp) :
    timestamp.coerce (.text (String.ofList (t.chars ' '))) = .ok (.timestamp t.shown) := by
  have whole := trimmed_timestampChars t [] (by simp)
  have read : readTimestamp (t.chars ' ' ++ []) = some t.shown :=
    t.readTimestamp_chars_append (by simp)
  rw [List.append_nil] at whole read
  unfold coerce
  dsimp only
  rw [whole, read]

theorem coerce_timestampUtcChars (t : Timestamp)
    (short : 0 ≤ t.date.year ∧ t.date.year ≤ 9999) :
    timestampUtc.coerce (.text (String.ofList (t.chars ' ' ++ "+00:00".toList))) =
      .ok (.timestampUtc t.shown) := by
  have whole := trimmed_timestampChars t "+00:00".toList (by simp [isBlank])
  have strict := t.readInternet_chars short
  have utc : (⟨t.shown, 0⟩ : OffsetTimestamp).utc? = some t.shown := t.shown.minusMinutes?_zero
  unfold coerce
  dsimp only
  rw [whole, strict, Option.bind_some, utc]
  rfl

/-- The form with a distance is read in the years of four digits, and the form without one nowhere,
since the distance is left behind it. -/
theorem coerce_timestampUtcChars_ne_ok (t : Timestamp)
    (long : ¬ (0 ≤ t.date.year ∧ t.date.year ≤ 9999)) (v : Value) :
    timestampUtc.coerce (.text (String.ofList (t.chars ' ' ++ "+00:00".toList))) ≠ .ok v := by
  have whole := trimmed_timestampChars t "+00:00".toList (by simp [isBlank])
  have strict := t.readInternet_chars_eq_none long "+00:00".toList
  have plain : readTimestamp (t.chars ' ' ++ "+00:00".toList) = none :=
    (t.readTimestamp_chars_append (by simp)).trans (if_neg (by simp))
  intro coerced
  unfold coerce at coerced
  dsimp only at coerced
  rw [whole, strict, plain] at coerced
  cases coerced

theorem coerce_timestampUtcChars_iff (t : Timestamp) :
    timestampUtc.coerce (.text (String.ofList (t.chars ' ' ++ "+00:00".toList))) =
        .ok (.timestampUtc t) ↔
      t.time.LeapIsLast ∧ 0 ≤ t.date.year ∧ t.date.year ≤ 9999 := by
  by_cases short : 0 ≤ t.date.year ∧ t.date.year ≤ 9999
  · rw [coerce_timestampUtcChars t short, ← Timestamp.shown_eq_iff, and_iff_left short]
    simp
  · exact iff_of_false (coerce_timestampUtcChars_ne_ok t short _) fun kept => short kept.2

theorem coerce_uuidText (u : Uuid) : uuid.coerce (.text u.text) = .ok (.uuid u) := by
  have whole := trimmed_of_solid u.solid_text
  rw [String.ofList_toList] at whole
  unfold coerce
  dsimp only
  rw [whole, u.read_text]
  rfl

end FieldType

/-- The literal of the value tells all of it. -/
def Value.InLiteral : Value → Prop
  | time t => t.LeapIsLast
  | timestamp t => t.time.LeapIsLast
  | timestampUtc t => t.time.LeapIsLast ∧ 0 ≤ t.date.year ∧ t.date.year ≤ 9999
  | _ => True

namespace FieldType

/-- A literal without its quotes is read as the value that it has been written for. A leap second
has to be at the end of its minute for that, and a point in universal time in the years of four
digits; no other one comes back. -/
theorem coerce_unquoted_iff {type : FieldType} (reads : type.readsLiterals = true) {v : Value}
    (held : v.kind = type.kind) :
    type.coerce (.text (Sql.unquoted (Sql.renderLiteral v))) = .ok v ↔ v.InLiteral := by
  -- without a time of day in it a value comes back whatever it is
  have whole {w : Value} {s : String} (bare : Sql.unquoted (Sql.renderLiteral w) = s)
      (coerced : type.coerce (.text s) = .ok w) (kept : w.InLiteral) :
      type.coerce (.text (Sql.unquoted (Sql.renderLiteral w))) = .ok w ↔ w.InLiteral := by
    rw [bare]
    exact iff_of_true coerced kept
  cases v with
  | bool b =>
    cases type <;> cases held
    exact whole rfl (coerce_boolLiteral b) trivial
  | int n =>
    have integer : type.isInteger = true := by cases type <;> first | rfl | cases held
    exact whole (Sql.unquoted_integerChars _) (coerce_integerChars integer n) trivial
  | char c =>
    cases type <;> cases held
    exact whole (Sql.unquoted_quoted _) (coerce_char c) trivial
  | text s =>
    refine whole (Sql.unquoted_quoted _) ?_ trivial
    rw [String.ofList_toList]
    exact coerce_of_kind held
  | enumName s =>
    cases type <;> cases held
    refine whole (Sql.unquoted_quoted _) ?_ trivial
    rw [String.ofList_toList]
    rfl
  | date d =>
    cases type <;> cases held
    exact whole (Sql.unquoted_quoted _) (coerce_dateChars d) trivial
  | time t =>
    cases type <;> cases held
    have bare : Sql.unquoted (Sql.renderLiteral (.time t)) = String.ofList t.chars :=
      Sql.unquoted_quoted _
    rw [bare, coerce_timeChars, Value.InLiteral, ← TimeOfDay.shown_eq_iff]
    simp
  | timestamp t =>
    cases type <;> cases held
    have bare : Sql.unquoted (Sql.renderLiteral (.timestamp t)) = String.ofList (t.chars ' ') :=
      Sql.unquoted_quoted _
    rw [bare, coerce_timestampChars, Value.InLiteral, ← Timestamp.shown_eq_iff]
    simp
  | timestampUtc t =>
    cases type <;> cases held
    have bare : Sql.unquoted (Sql.renderLiteral (.timestampUtc t)) =
        String.ofList (t.chars ' ' ++ "+00:00".toList) := Sql.unquoted_quoted _
    rw [bare]
    exact coerce_timestampUtcChars_iff t
  | uuid u =>
    cases type <;> cases held
    refine whole (Sql.unquoted_quoted _) ?_ trivial
    rw [String.ofList_toList]
    exact coerce_uuidText u
  | null | float | decimal | bytes | json | serverNow =>
    cases type <;> cases held <;> cases reads

/-- A leap second at the end of a minute is written as second 60 and read back, and the same moment
in the year 10000 is not. -/
theorem coerce_unquoted_leapSecond :
    let leap : TimeOfDay := ⟨23, 59, 59, 1500000000, by decide, by decide, by decide, by decide⟩
    let early : Timestamp := ⟨⟨2016, 12, 31, by decide, by decide, by decide⟩, leap⟩
    let late : Timestamp := ⟨⟨10000, 12, 31, by decide, by decide, by decide⟩, leap⟩
    Sql.unquoted (Sql.renderLiteral (.timestampUtc early)) = "2016-12-31 23:59:60.500+00:00" ∧
      timestampUtc.coerce (.text (Sql.unquoted (Sql.renderLiteral (.timestampUtc early)))) =
        .ok (.timestampUtc early) ∧
      timestampUtc.coerce (.text (Sql.unquoted (Sql.renderLiteral (.timestampUtc late)))) ≠
        .ok (.timestampUtc late) := by
  intro leap early late
  refine ⟨by decide, (coerce_unquoted_iff rfl rfl).2 ⟨fun _ => rfl, by decide⟩, fun read => ?_⟩
  have kept := (coerce_unquoted_iff rfl rfl).1 read
  exact absurd kept.2.2 (by decide)

/-- A leap second within a minute is written with the number of the second behind it, and read as
that. -/
theorem coerce_unquoted_midMinute :
    let leap : TimeOfDay := ⟨23, 56, 4, 1333333333, by decide, by decide, by decide, by decide⟩
    let behind : TimeOfDay := ⟨23, 56, 5, 333333333, by decide, by decide, by decide, by decide⟩
    Sql.unquoted (Sql.renderLiteral (.time leap)) = "23:56:05.333333333" ∧
      time.coerce (.text (Sql.unquoted (Sql.renderLiteral (.time leap)))) = .ok (.time behind) ∧
      time.coerce (.text (Sql.unquoted (Sql.renderLiteral (.time leap)))) ≠ .ok (.time leap) := by
  intro leap behind
  have bare : Sql.unquoted (Sql.renderLiteral (.time leap)) = String.ofList leap.chars :=
    Sql.unquoted_quoted _
  have next : leap.shown = behind := by decide
  have read : time.coerce (.text (Sql.unquoted (Sql.renderLiteral (.time leap)))) =
      .ok (.time behind) := by
    rw [bare, coerce_timeChars, next]
  refine ⟨by decide, read, ?_⟩
  rw [read]
  simp [leap, behind]

end FieldType

end DataMapper
