import DataMapper.Proofs.Field.Assignment
import DataMapper.Proofs.Number.Rounding
import Mathlib.Data.Nat.Digits.Defs

/-!
# Numbers read into integer fields

Integers, truth values, decimals, doubles and texts stand for numbers. An integer field reads such
a value as the number that it stands for, or not at all: nothing is rounded, cut off or wrapped
around on the way, neither into 64 bits nor from there into the type of the field.

## Main definitions

* `Number.decimalInteger?`, `Decimal.toRat`, `Double.value` — the numbers that texts, decimals and
  doubles stand for.
* `Value.number?` — the number that a value stands for.
* `Scalar.read` — a content read from a value of any kind.

## Main statements

* `Number.readInteger_eq_ok_iff` — which texts are read as integers.
* `IntegerKind.read_exact` — what an integer field reads.
-/

namespace DataMapper

open Number

namespace Number

/-! ## Written integers -/

/-- The number that digits stand for, the last of them being the units. -/
def digitsNumber (ds : List Char) : Nat :=
  Nat.ofDigits 10 (ds.reverse.map fun c => c.toNat - '0'.toNat)

/-- The integer that digits behind a sign, or without one, stand for. -/
def decimalInteger? (cs : List Char) : Option Int :=
  let (negative, ds) := readSign cs
  if !ds.isEmpty && ds.all Char.isDigit then
    some (if negative then -(digitsNumber ds : Int) else digitsNumber ds)
  else none

theorem digitsValue_eq (value : Nat) (ds : List Char) :
    digitsValue value ds = value * 10 ^ ds.length + digitsNumber ds := by
  induction ds generalizing value with
  | nil => simp [digitsValue, digitsNumber]
  | cons c ds ih =>
    have units : digitsNumber (c :: ds) =
        digitsNumber ds + 10 ^ ds.length * (c.toNat - '0'.toNat) := by
      simp [digitsNumber, Nat.ofDigits_append]
    rw [units, List.length_cons, Nat.pow_succ, digitsValue, List.foldl_cons]
    refine (ih _).trans ?_
    ring

theorem readDigits_eq_ok_iff {bound value n : Nat} {beyond : IntegerFault} {cs : List Char}
    (fits : value ≤ bound) :
    readDigits bound beyond value cs = .ok n ↔
      (∀ c ∈ cs, c.isDigit = true) ∧ digitsValue value cs = n ∧ n ≤ bound := by
  induction cs generalizing value with
  | nil =>
    simp only [readDigits, digitsValue, List.foldl_nil, Except.ok.injEq]
    constructor
    · rintro rfl
      exact ⟨by simp, rfl, fits⟩
    · exact fun h => h.2.1
  | cons c cs ih =>
    rw [readDigits, List.forall_mem_cons]
    by_cases digit : c.isDigit = true
    · have more : digitsValue value (c :: cs) =
          digitsValue (value * 10 + (c.toNat - '0'.toNat)) cs := rfl
      have grows := digitsValue_eq (value * 10 + (c.toNat - '0'.toNat)) cs
      simp only [digit?, if_pos digit, more]
      split
      · next tooLarge =>
        have := Nat.le_mul_of_pos_right (value * 10 + (c.toNat - '0'.toNat))
          (Nat.pow_pos (n := cs.length) (show 0 < 10 by decide))
        simp only [reduceCtorEq, false_iff, not_and, not_le]
        omega
      · next within =>
        rw [ih (by omega), eq_true digit, true_and]
    · simp [digit?, digit]

theorem readInteger_of_ne {low high : Int} {cs : List Char} (ne : cs ≠ [])
    (unsigned : ∀ c ∈ cs.head?, c ≠ '+' ∧ c ≠ '-') :
    readInteger low high cs = (readDigits high.natAbs .tooLarge 0 cs).map Int.ofNat := by
  obtain ⟨c, cs, rfl⟩ := List.exists_cons_of_ne_nil ne
  obtain ⟨plus, minus⟩ := unsigned c rfl
  rw [readInteger] <;> simp [plus, minus]

/-- Digits that are read and given a sign. -/
theorem map_readDigits_eq_ok_iff {bound : Nat} {beyond : IntegerFault} {ds : List Char}
    (sign : Nat → Int) {n : Int} :
    (readDigits bound beyond 0 ds).map sign = .ok n ↔
      (∀ c ∈ ds, c.isDigit = true) ∧ sign (digitsNumber ds) = n ∧ digitsNumber ds ≤ bound := by
  have number : digitsValue 0 ds = digitsNumber ds := by simp [digitsValue_eq]
  have read (m : Nat) : readDigits bound beyond 0 ds = .ok m ↔ _ :=
    readDigits_eq_ok_iff bound.zero_le
  simp only [number] at read
  constructor
  · intro h
    cases found : readDigits bound beyond 0 ds with
    | error fault => simp [found, Except.map] at h
    | ok m =>
      obtain ⟨digits, rfl, within⟩ := (read m).1 found
      rw [found] at h
      exact ⟨digits, Except.ok.inj h, within⟩
  · rintro ⟨digits, rfl, within⟩
    rw [(read _).2 ⟨digits, rfl, within⟩]
    rfl

theorem decimalInteger?_eq_some_iff {cs ds : List Char} {negative : Bool}
    (sign : readSign cs = (negative, ds)) {n : Int} :
    decimalInteger? cs = some n ↔ ds ≠ [] ∧ (∀ c ∈ ds, c.isDigit = true) ∧
      (if negative then -(digitsNumber ds : Int) else digitsNumber ds) = n := by
  have written : (!ds.isEmpty && ds.all Char.isDigit) = true ↔
      ds ≠ [] ∧ ∀ c ∈ ds, c.isDigit = true := by simp
  simp only [decimalInteger?, sign, written]
  split
  · next written =>
    rw [Option.some.injEq]
    exact ⟨fun same => ⟨written.1, written.2, same⟩, fun h => h.2.2⟩
  · next other =>
    simp only [reduceCtorEq, false_iff]
    exact fun h => other ⟨h.1, h.2.1⟩

/-- The integers within bounds are read, and nothing else. -/
theorem readInteger_eq_ok_iff {low high n : Int} (negative : low < 0) (positive : 0 ≤ high)
    {cs : List Char} :
    readInteger low high cs = .ok n ↔ decimalInteger? cs = some n ∧ low ≤ n ∧ n ≤ high := by
  cases cs with
  | nil => simp [readInteger, decimalInteger?, readSign]
  | cons c ds =>
    by_cases minus : c = '-'
    · subst minus
      have sign : readSign ('-' :: ds) = (true, ds) := rfl
      rw [decimalInteger?_eq_some_iff sign]
      by_cases none : ds = []
      · simp [none, readInteger]
      · have read : readInteger low high ('-' :: ds) =
            (readDigits low.natAbs .tooSmall 0 ds).map fun m : Nat => -(m : Int) := by
          rw [readInteger, if_pos negative]
          · cases readDigits low.natAbs .tooSmall 0 ds <;> rfl
          · simpa using none
        rw [read, map_readDigits_eq_ok_iff, if_pos rfl]
        constructor
        · rintro ⟨digits, rfl, within⟩
          exact ⟨⟨none, digits, rfl⟩, by omega, by omega⟩
        · rintro ⟨⟨-, digits, rfl⟩, least, -⟩
          exact ⟨digits, rfl, by omega⟩
    · -- without a minus sign the digits stand behind a plus sign or are the whole text
      have unsigned {cs ds : List Char} (sign : readSign cs = (false, ds)) (some : ds ≠ [])
          (read : readInteger low high cs = (readDigits high.natAbs .tooLarge 0 ds).map Int.ofNat) :
          readInteger low high cs = .ok n ↔ decimalInteger? cs = .some n ∧ low ≤ n ∧ n ≤ high := by
        rw [decimalInteger?_eq_some_iff sign, read, map_readDigits_eq_ok_iff, if_neg (by simp)]
        simp only [Int.ofNat_eq_natCast]
        constructor
        · rintro ⟨digits, rfl, within⟩
          exact ⟨⟨some, digits, rfl⟩, by omega, by omega⟩
        · rintro ⟨⟨-, digits, rfl⟩, -, most⟩
          exact ⟨digits, rfl, by omega⟩
      by_cases plus : c = '+'
      · subst plus
        by_cases none : ds = []
        · simp [none, readInteger, decimalInteger?, readSign]
        · have sign : readSign ('+' :: ds) = (false, ds) := rfl
          refine unsigned sign none ?_
          rw [readInteger]
          simpa using none
      · have sign : readSign (c :: ds) = (false, c :: ds) := by simp [readSign, plus, minus]
        exact unsigned sign (List.cons_ne_nil c ds)
          (readInteger_of_ne (List.cons_ne_nil c ds) (by simp [plus, minus]))

/-! ## Decimals and doubles -/

/-- The number that a decimal stands for. -/
def Decimal.toRat (d : Decimal) : ℚ :=
  (if d.negative then -1 else 1) * (d.mantissa / 10 ^ d.scale)

theorem div_eq_intCast_iff {m u : Nat} (positive : 0 < u) {n : Int} :
    (m / u : ℚ) = n ↔ m % u = 0 ∧ (m / u : Nat) = n := by
  have unit : (u : ℚ) ≠ 0 := Nat.cast_ne_zero.2 positive.ne'
  rw [div_eq_iff unit]
  constructor
  · intro same
    have product : (m : Int) = n * u := by exact_mod_cast same
    have nonneg : 0 ≤ n := by
      by_contra negative
      have := mul_neg_of_neg_of_pos (Int.not_le.1 negative) (Int.natCast_pos.2 positive)
      omega
    obtain ⟨k, rfl⟩ := Int.eq_ofNat_of_zero_le nonneg
    obtain rfl : m = k * u := by exact_mod_cast product
    exact ⟨Nat.mul_mod_left k u, by rw [Nat.mul_div_cancel _ positive]⟩
  · rintro ⟨whole, rfl⟩
    exact_mod_cast (Nat.div_mul_cancel (Nat.dvd_of_mod_eq_zero whole)).symm

/-- A decimal is an integer exactly if nothing but zeros stands behind its point. -/
theorem Decimal.toRat_eq_intCast_iff {d : Decimal} {n : Int} :
    d.toRat = n ↔ d.isWhole = true ∧ d.truncate = n := by
  have size (k : Int) : (d.mantissa / 10 ^ d.scale : ℚ) = k ↔
      d.mantissa % 10 ^ d.scale = 0 ∧ (d.mantissa / 10 ^ d.scale : Nat) = k := by
    have value := div_eq_intCast_iff (m := d.mantissa) (n := k) (Nat.pow_pos (n := d.scale)
      (show 0 < 10 by decide))
    rwa [Nat.cast_pow] at value
  rw [isWhole, beq_iff_eq, truncate, toRat]
  split
  · rw [neg_one_mul, neg_eq_iff_eq_neg, ← Int.cast_neg, size, eq_neg_iff_add_eq_zero,
      neg_eq_iff_add_eq_zero]
  · rw [one_mul, size]

/-- The number that a finite double stands for: eleven bits are its exponent and the other 52 are
the places behind the point, with a one before it unless the exponent is zero. -/
def Double.value (x : Double) : ℚ :=
  let exponent : Nat := x.magnitude / 2 ^ 52
  let fraction : ℚ := (x.magnitude % 2 ^ 52 : Nat) / 2 ^ 52
  (if x.negative then -1 else 1) *
    if exponent = 0 then fraction * 2 ^ (-1022 : Int)
    else (1 + fraction) * 2 ^ ((exponent : Int) - 1023)

theorem Double.toRat_eq_value (x : Double) : x.toRat = Double.value x := by
  obtain ⟨e, he⟩ : ∃ e, e = x.magnitude / 2 ^ 52 := ⟨_, rfl⟩
  obtain ⟨m, hm⟩ : ∃ m, m = x.magnitude % 2 ^ 52 := ⟨_, rfl⟩
  have sig : x.significand = if e = 0 then m else 2 ^ 52 + m := by
    rw [he, hm]
    rfl
  have place : x.scale = -1074 + (e - 1 : Nat) := by
    rw [he, ← Binary.double_minScale]
    rfl
  have size : (x.significand : ℚ) * 2 ^ x.scale =
      if e = 0 then (m : ℚ) / 2 ^ 52 * 2 ^ (-1022 : Int)
      else (1 + (m : ℚ) / 2 ^ 52) * 2 ^ ((e : Int) - 1023) := by
    -- the places behind the point are units of the last place
    have shift (k : Int) : (2 : ℚ) ^ (k + 52) = 2 ^ k * 2 ^ 52 := two_zpow_add k 52
    have unit : (2 : ℚ) ^ 52 ≠ 0 := by positivity
    rw [sig, place]
    split
    · next least =>
      rw [least, show (-1022 : Int) = -1074 + (0 - 1 : Nat) + 52 from rfl, shift]
      field_simp
    · next normal =>
      rw [show (e : Int) - 1023 = -1074 + (e - 1 : Nat) + 52 by omega, shift]
      push_cast
      field_simp
      norm_num
  rw [Binary.toRat_eq, size, value, ← he, ← hm]
  split
  · rw [neg_one_mul]
  · rw [one_mul]

theorem Binary.toInt?_eq_some_iff {f : Format} {x : Binary f} {n : Int} :
    x.toInt? = some n ↔ x.isFinite = true ∧ x.toRat = n := by
  unfold toInt?
  split
  · next whole =>
    obtain ⟨finite, one⟩ := Bool.and_eq_true_iff.1 whole
    have value := Rat.coe_int_num_of_den_eq_one (beq_iff_eq.1 one)
    rw [Option.some.injEq, and_iff_right finite, ← value, Rat.num_intCast, Rat.intCast_inj]
  · next other =>
    simp only [reduceCtorEq, false_iff, not_and]
    intro finite same
    exact other (by rw [finite, same]; simp)

end Number

/-! ## Values -/

/-- The number that a value stands for. -/
def Value.number? : Value → Option ℚ
  | int n => some n.toInt
  | bool b => some (if b then 1 else 0)
  | decimal d => some d.toRat
  | float x => if x.isFinite then some (Double.value x) else none
  | text s => (decimalInteger? (trimmed s)).map fun n : Int => (n : ℚ)
  | _ => none

/-- The words of 64 bits are the integers between their bounds. -/
theorem int64?_eq_some_iff {n : Int} {m : Int64} : int64? n = some m ↔ m.toInt = n := by
  unfold int64? minInt64 maxInt64
  have low := m.le_toInt
  have high := m.toInt_lt
  split
  · next fits =>
    have word : (Int64.ofInt n).toInt = n := Int64.toInt_ofInt_of_le (by omega) (by omega)
    rw [Option.some.injEq, ← Int64.toInt_inj, word, eq_comm]
  · next beyond =>
    simp only [reduceCtorEq, false_iff]
    rintro rfl
    omega

namespace FieldType

/-- The last step of a coercion: 64 bits hold the integer, or there is an error. -/
theorem int64?_ok_iff {n : Int} {e : ConversionError} {w : Value} :
    (match int64? n with
      | some m => Except.ok (Value.int m)
      | none => .error e) = .ok w ↔ ∃ m : Int64, w = .int m ∧ n = m.toInt := by
  split
  · next m found =>
    obtain rfl := int64?_eq_some_iff.1 found
    constructor
    · rintro ⟨⟩
      exact ⟨m, rfl, rfl⟩
    · rintro ⟨m', rfl, same⟩
      rw [Int64.toInt_inj.1 same]
  · next none =>
    simp only [reduceCtorEq, false_iff, not_exists, not_and]
    rintro m - rfl
    rw [int64?_eq_some_iff.2 rfl] at none
    cases none

/-- A value becomes the integer of 64 bits that it stands for, or none. -/
theorem coerceInteger_eq_ok_iff {expected : String} {v w : Value} :
    coerceInteger expected v = .ok w ↔
      ∃ m : Int64, w = .int m ∧ v.number? = some (m.toInt : ℚ) := by
  have itself {r : ℚ} {n : Int64} (value : r = (n.toInt : ℚ)) :
      (Except.ok (.int n) : Except ConversionError Value) = .ok w ↔
        ∃ m : Int64, w = .int m ∧ some r = some (m.toInt : ℚ) := by
    subst value
    constructor
    · rintro ⟨⟩
      exact ⟨n, rfl, rfl⟩
    · rintro ⟨m, rfl, same⟩
      rw [Int64.toInt_inj.1 (Rat.intCast_inj.1 (Option.some.inj same))]
  cases v with
  | int n => exact itself rfl
  | bool b => exact itself (by cases b <;> rfl)
  | decimal d =>
    rw [coerceInteger]
    split
    · next whole =>
      refine int64?_ok_iff.trans (exists_congr fun m => and_congr_right fun _ => ?_)
      rw [Value.number?, Option.some.injEq, Decimal.toRat_eq_intCast_iff, and_iff_right whole]
    · next part =>
      simp only [reduceCtorEq, false_iff, not_exists, not_and, Value.number?, Option.some.injEq]
      exact fun m _ same => part (Decimal.toRat_eq_intCast_iff.1 same).1
  | float x =>
    rw [coerceInteger]
    split
    · next n found =>
      obtain ⟨finite, value⟩ := Binary.toInt?_eq_some_iff.1 found
      refine int64?_ok_iff.trans (exists_congr fun m => and_congr_right fun _ => ?_)
      rw [Value.number?, if_pos finite, ← Double.toRat_eq_value, value, Option.some.injEq,
        Rat.intCast_inj]
    · next none =>
      simp only [reduceCtorEq, false_iff, not_exists, not_and, Value.number?]
      intro m _ same
      split at same
      · next finite =>
        rw [← Double.toRat_eq_value] at same
        rw [Binary.toInt?_eq_some_iff.2 ⟨finite, Option.some.inj same⟩] at none
        cases none
      · cases same
  | text s =>
    have bounds (m : Int64) : minInt64 ≤ m.toInt ∧ m.toInt ≤ maxInt64 := by
      have := m.le_toInt
      have := m.toInt_lt
      unfold minInt64 maxInt64
      omega
    have read (n : Int) : readInteger minInt64 maxInt64 (trimmed s) = .ok n ↔ _ :=
      readInteger_eq_ok_iff (by decide) (by decide)
    rw [coerceInteger]
    split
    · next n found =>
      refine int64?_ok_iff.trans (exists_congr fun m => and_congr_right fun _ => ?_)
      rw [Value.number?, ((read n).1 found).1, Option.map_some, Option.some.injEq, Rat.intCast_inj]
    · next fault found =>
      simp only [reduceCtorEq, false_iff, not_exists, not_and, Value.number?]
      intro m _ same
      obtain ⟨n, written, equal⟩ := Option.map_eq_some_iff.1 same
      obtain rfl := Rat.intCast_inj.1 equal
      rw [(read _).2 ⟨written, bounds m⟩] at found
      cases found
  | null | char | bytes | date | time | timestamp | timestampUtc | uuid | json | enumName
  | serverNow => simp [coerceInteger, Value.number?]

theorem coerce_of_isInteger {type : FieldType} (integer : type.isInteger = true) {v : Value}
    (present : v ≠ .null) : type.coerce v = coerceInteger type.name v := by
  cases type with
  | byte | short | int | long => cases v <;> first | rfl | exact absurd rfl present
  | _ => cases integer

theorem coerce_eq_coerceInteger (k : IntegerKind) {v : Value} (present : v ≠ .null) :
    k.fieldType.coerce v = coerceInteger k.fieldType.name v :=
  coerce_of_isInteger (by cases k <;> rfl) present

end FieldType

/-! ## Fields -/

/-- A content read from a value of any kind: it is brought into the kind that the field holds. -/
def Scalar.read (st : TextStore) (s : Scalar) (v : Value) :
    Except ConversionError (s.Content × TextStore) :=
  (s.fieldType.coerce v).bind (s.ofValue st)

/-- An integer field reads a value as the number that it stands for, if that is an integer of its
type, and refuses it else. -/
theorem IntegerKind.read_exact (k : IntegerKind) (st : TextStore) (v : Value) :
    (∀ (n : k.Range) (st' : TextStore), (Scalar.integer k).read st v = .ok (n, st') ↔
      v.number? = some (n.val : ℚ) ∧ st' = st) ∧
    ((∃ e, (Scalar.integer k).read st v = .error e) ↔
      ∀ n : k.Range, v.number? ≠ some (n.val : ℚ)) := by
  have taken (n : k.Range) (st' : TextStore) : (Scalar.integer k).read st v = .ok (n, st') ↔
      v.number? = some (n.val : ℚ) ∧ st' = st := by
    by_cases absent : v = .null
    · subst absent
      have refused : (Scalar.integer k).read st .null = .error (.unexpected k.typeName .null) := by
        cases k <;> rfl
      simp [refused, Value.number?]
    · rw [Scalar.read, Scalar.fieldType, FieldType.coerce_eq_coerceInteger k absent]
      constructor
      · intro h
        cases coerced : FieldType.coerceInteger k.fieldType.name v with
        | error e => simp [coerced, Except.bind] at h
        | ok w =>
          obtain ⟨m, rfl, number⟩ := FieldType.coerceInteger_eq_ok_iff.1 coerced
          rw [coerced, Except.bind, Scalar.ofValue] at h
          split at h
          · cases h
            exact ⟨number, rfl⟩
          · cases h
      · rintro ⟨number, rfl⟩
        have word := IntegerKind.toInt_ofInt n
        rw [FieldType.coerceInteger_eq_ok_iff.2 ⟨Int64.ofInt n.val, rfl, by rw [word, number]⟩,
          Except.bind, Scalar.ofValue, dif_pos (by rw [word]; exact n.property)]
        exact congrArg (fun m => Except.ok (m, st')) (Subtype.ext word)
  refine ⟨taken, ?_⟩
  cases result : (Scalar.integer k).read st v with
  | error e =>
    refine iff_of_true ⟨e, rfl⟩ fun n same => ?_
    have := (taken n st).2 ⟨same, rfl⟩
    rw [result] at this
    cases this
  | ok r =>
    obtain ⟨n, st'⟩ := r
    refine iff_of_false ?_ fun none => none n ((taken n st').1 result).1
    rintro ⟨e, ⟨⟩⟩

end DataMapper
