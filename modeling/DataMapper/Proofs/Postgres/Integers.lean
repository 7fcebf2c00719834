import DataMapper.Proofs.Field.Literals
import DataMapper.Proofs.Postgres.Cells

/-!
# Integers as parameters

An integer is sent in the form of the parameter's type: in two's complement or without a sign, the
highest byte first and in as many bytes as the type has, or as decimal digits where the type is one
of texts. Each form holds a range of integers. Those within it are sent as bytes that the form reads
as the same integer, and the others are not sent at all.

## Main definitions

* `IntegerForm`, `ColumnType.integerForm?` — how the values of a type stand for integers.
* `IntegerForm.Holds`, `IntegerForm.read?` — the integers of a form, and the one in given bytes.

## Main statements

* `IntegerForm.holds_iff_exists_read` — a form holds the integers that some bytes stand for.
* `bind_int_reads_back` — what is sent for an integer, and when nothing is.
-/

namespace DataMapper.Postgres

open Number Text

/-- How bytes stand for integers. -/
inductive IntegerForm where
  /-- Two's complement in so many bytes. -/
  | signed (length : Nat)
  | unsigned (length : Nat)
  /-- Decimal digits, behind a minus sign for negative integers. -/
  | digits
  deriving DecidableEq, Repr

/-- The form of integers in a type, for the types of integers and of texts. -/
def ColumnType.integerForm? : ColumnType → Option IntegerForm
  | int2 => some (.signed 2)
  | int4 => some (.signed 4)
  | int8 => some (.signed 8)
  | oid => some (.unsigned 4)
  | text | varchar | bpchar | name | unknown => some .digits
  | _ => none

namespace IntegerForm

/-- The integers within the bounds of the form. -/
def Holds (n : Int) : IntegerForm → Prop
  | signed length => -2 ^ (8 * length - 1) ≤ n ∧ n < 2 ^ (8 * length - 1)
  | unsigned length => 0 ≤ n ∧ n < 2 ^ (8 * length)
  | digits => True

/-- The integer that the bytes stand for. -/
def read? (bytes : List UInt8) : IntegerForm → Option Int
  | signed length => signedOf? length bytes
  | unsigned length => (unsignedOf? length bytes).map Int.ofNat
  | digits => (ofUtf8? bytes).bind fun s => decimalInteger? s.toList

instance (n : Int) : (f : IntegerForm) → Decidable (f.Holds n)
  | signed _ => inferInstanceAs (Decidable (_ ∧ _))
  | unsigned _ => inferInstanceAs (Decidable (_ ∧ _))
  | digits => inferInstanceAs (Decidable True)

/-- What is sent for an integer in the form. -/
def write (n : Int) : IntegerForm → Except BindFault (List UInt8)
  | signed length => signedBytes length n
  | unsigned length => unsignedBytes length n
  | digits => .ok (utf8 (String.ofList (Json.integerChars n)))

/-- The form has bytes, so that half of its words can stand for negative integers. -/
def HasBytes : IntegerForm → Prop
  | signed length | unsigned length => 0 < length
  | digits => True

variable {f : IntegerForm} {n : Int}

theorem holds_unsigned_iff {length : Nat} :
    (unsigned length).Holds n ↔ 0 ≤ n ∧ n < (256 ^ length : Nat) := by
  have words : (2 : Int) ^ (8 * length) = (256 ^ length : Nat) := by
    rw [Int.pow_mul]
    norm_num
  rw [Holds, words]

/-- An integer of the form is written, and read back. -/
theorem exists_write (bytes : f.HasBytes) (holds : f.Holds n) :
    ∃ word, f.write n = .ok word ∧ f.read? word = some n := by
  cases f with
  | signed length =>
    obtain ⟨low, high⟩ := (within_half_iff bytes).1 holds
    exact ⟨signedBigEndian length n, if_pos holds, signedOf?_signedBigEndian low high⟩
  | unsigned length =>
    obtain ⟨low, high⟩ := holds_unsigned_iff.1 holds
    obtain ⟨m, rfl⟩ := Int.eq_ofNat_of_zero_le low
    have fits : m < 256 ^ length := Int.ofNat_lt.1 high
    refine ⟨bigEndian length m, if_pos ⟨low, by simpa using high⟩, ?_⟩
    rw [read?, unsignedOf?_bigEndian fits]
    rfl
  | digits =>
    refine ⟨_, rfl, ?_⟩
    rw [read?, ofUtf8?_utf8, Option.bind_some, String.toList_ofList, decimalInteger?_integerChars]

/-- An integer beyond the form is not written. -/
theorem write_eq_error (beyond : ¬ f.Holds n) : f.write n = .error .outOfRange := by
  cases f with
  | signed length => exact if_neg beyond
  | unsigned length =>
    rw [holds_unsigned_iff] at beyond
    exact if_neg (by simpa using beyond)
  | digits => exact absurd trivial beyond

/-- What bytes of the form stand for is within its bounds. -/
theorem holds_of_read {word : List UInt8} (bytes : f.HasBytes) (read : f.read? word = some n) :
    f.Holds n := by
  cases f with
  | signed length => exact (within_half_iff bytes).2 (signedOf?_bounds read)
  | unsigned length =>
    obtain ⟨m, found, rfl⟩ := Option.map_eq_some_iff.1 read
    exact holds_unsigned_iff.2 ⟨Int.natCast_nonneg m, Int.ofNat_lt.2 (unsignedOf?_lt found)⟩
  | digits => trivial

/-- The bounds of a form are those of its bytes: it holds the integers that some of them stand
for. -/
theorem holds_iff_exists_read (bytes : f.HasBytes) :
    f.Holds n ↔ ∃ word, f.read? word = some n := by
  constructor
  · intro holds
    obtain ⟨word, -, read⟩ := exists_write bytes holds
    exact ⟨word, read⟩
  · rintro ⟨word, read⟩
    exact holds_of_read bytes read

end IntegerForm

namespace ColumnType

variable {t : ColumnType} {f : IntegerForm}

theorem hasBytes_of_integerForm? (form : t.integerForm? = some f) : f.HasBytes := by
  cases t <;> cases form <;> simp [IntegerForm.HasBytes]

end ColumnType

/-- An integer is sent in the form of the type. -/
theorem intBytes_eq_write {t : ColumnType} {f : IntegerForm} (form : t.integerForm? = some f)
    (n : Int64) : intBytes n t = f.write n.toInt := by
  cases t <;> cases form <;> rfl

/-- A parameter of integers or texts takes the integers that its form holds. What is sent for such
an integer stands for it, and an integer beyond the form is refused. -/
theorem bind_int_reads_back {t : ColumnType} {f : IntegerForm} (form : t.integerForm? = some f)
    (n : Int64) :
    ((∃ fault, bind t (.int n) = .error fault) ∨
      ∃ word, bind t (.int n) = .ok (some word) ∧ f.read? word = some n.toInt) ∧
    ((∃ fault, bind t (.int n) = .error fault) ↔ ¬ f.Holds n.toInt) := by
  have sent : bind t (.int n) = (f.write n.toInt).map some :=
    congrArg (Except.map some) (intBytes_eq_write form n)
  rw [sent]
  by_cases holds : f.Holds n.toInt
  · obtain ⟨word, written, read⟩ :=
      IntegerForm.exists_write (ColumnType.hasBytes_of_integerForm? form) holds
    rw [written]
    refine ⟨.inr ⟨word, rfl, read⟩, iff_of_false ?_ (not_not_intro holds)⟩
    rintro ⟨fault, ⟨⟩⟩
  · rw [IntegerForm.write_eq_error holds]
    exact ⟨.inl ⟨_, rfl⟩, iff_of_true ⟨_, rfl⟩ holds⟩

/-- The greatest number that an object identifier holds, and a negative one, which it does not. -/
theorem bind_int_reads_back_oid :
    ColumnType.oid.integerForm? = some (.unsigned 4) ∧
    (∃ word, bind .oid (.int 4294967295) = .ok (some word) ∧
      (IntegerForm.unsigned 4).read? word = some 4294967295) ∧
    ∃ fault, bind .oid (.int (-1)) = .error fault := by
  have form : ColumnType.oid.integerForm? = some (.unsigned 4) := rfl
  obtain ⟨result, refused⟩ := bind_int_reads_back form 4294967295
  have fits : (IntegerForm.unsigned 4).Holds (4294967295 : Int64).toInt := by decide
  refine ⟨form, ?_, (bind_int_reads_back form (-1)).2.2 (by decide)⟩
  exact result.resolve_left fun failed => refused.1 failed fits

end DataMapper.Postgres
