import DataMapper.Postgres.Decoding
import DataMapper.Proofs.Calendar.DayNumbers
import DataMapper.Proofs.Json.Printing
import DataMapper.Proofs.Postgres.Numerics

/-!
# Values on their way to a column and back

A value that has been read from a column can be sent as a parameter of the column's type, and what
arrives is read as the value again. Each kind of value has its law: the bytes that are sent for it,
and the value that these bytes are read as.

## Main definitions

* `Travels` — a value is sent as a parameter of a type and read as a value of it.
* `Value.Same` — the same value; of a decimal the places of zero do not count.

## Main statements

* `travels_iff` — what has been read from a column can be written back to it.
-/

namespace DataMapper

open Number Calendar Text Postgres

/-! ## What is kept on the way -/

/-- Whole microseconds, and no leap second. -/
structure Calendar.TimeOfDay.IsPlain (t : TimeOfDay) : Prop where
  ordinary : t.nano < secondNanos
  micros : t.nano % 1000 = 0

namespace Value

/-- Times are plain, and JSON is read back from its text. -/
def IsPlain : Value → Prop
  | time t => t.IsPlain
  | timestamp t | timestampUtc t => t.time.IsPlain
  | json j => Json.read j.chars = some j
  | _ => True

theorem isPlain_json {j : Json} (readable : j.IsReadable Json.maxDepth) : (json j).IsPlain :=
  Json.read_chars readable

/-- The same value. Decimals are the same when they are equal numbers. -/
def Same (v w : Value) : Prop :=
  v = w ∨ ∃ d e, v = decimal d ∧ w = decimal e ∧ d.equal e = true

theorem Same.refl (v : Value) : v.Same v := .inl rfl

end Value

namespace Postgres

/-! ## Bytes -/

theorem signedOf?_signedBigEndian {length : Nat} {n : Int}
    (low : -(256 ^ length : Nat) ≤ 2 * n) (high : 2 * n < (256 ^ length : Nat)) :
    signedOf? length (signedBigEndian length n) = some n := by
  rw [signedOf?, if_pos (by simp [signedBigEndian]), ofSignedBigEndian_signedBigEndian low high]

theorem unsignedOf?_bigEndian {length n : Nat} (fits : n < 256 ^ length) :
    unsignedOf? length (bigEndian length n) = some n := by
  rw [unsignedOf?, if_pos (by simp), ofBigEndian_bigEndian fits]

theorem signedOf?_bounds {length : Nat} {bytes : List UInt8} {n : Int}
    (read : signedOf? length bytes = some n) :
    -(256 ^ length : Nat) ≤ 2 * n ∧ 2 * n < (256 ^ length : Nat) := by
  unfold signedOf? at read
  split at read
  · next exact_ =>
    obtain rfl := Option.some.inj read
    rw [← exact_]
    exact ofSignedBigEndian_bounds bytes
  · cases read

theorem unsignedOf?_lt {length n : Nat} {bytes : List UInt8}
    (read : unsignedOf? length bytes = some n) : n < 256 ^ length := by
  unfold unsignedOf? at read
  split at read
  · next exact_ =>
    obtain rfl := Option.some.inj read
    rw [← exact_]
    exact ofBigEndian_lt bytes
  · cases read

theorem floatOf?_floatBytes {f : Format} (bytes : 256 ^ (f.width / 8) = 2 ^ f.width)
    (x : Binary f) : floatOf? f (floatBytes x) = some x := by
  have fits : x.word.toNat < 256 ^ (f.width / 8) := by
    rw [bytes]
    exact x.word.isLt
  rw [floatOf?, floatBytes, unsignedOf?_bigEndian fits, Option.map_some, BitVec.ofNat_toNat,
    BitVec.setWidth_eq]

theorem readJson?_text {j : Json} (read : Json.read j.chars = some j) :
    readJson? (utf8 j.text) = some j := by
  simpa [readJson?, ofUtf8?_utf8, Json.text] using read

/-! ## Times -/

theorem timeOfMicros?_isPlain {n : Nat} {t : TimeOfDay} (read : timeOfMicros? n = some t) :
    t.IsPlain := by
  simp only [timeOfMicros?, TimeOfDay.make?] at read
  split at read
  · obtain rfl := Option.some.inj read
    exact ⟨by simp only [secondNanos]; omega, by simp⟩
  · cases read

/-- A plain time is its number of microseconds. -/
theorem timeOfMicros?_nanosOfDay {t : TimeOfDay} (plain : t.IsPlain) :
    ∃ n : Nat, nanosOfDay t = n * 1000 ∧ (n : Int) < dayMicros ∧ timeOfMicros? n = some t := by
  obtain ⟨ordinary, micros⟩ := plain
  obtain ⟨hour, minute, second, nano, h, m, s, n⟩ := t
  simp only [secondNanos] at ordinary micros n
  refine ⟨((hour * 60 + minute) * 60 + second) * 1000000 + nano / 1000, ?_, ?_, ?_⟩
  · simp only [nanosOfDay, secondNanos]
    omega
  · simp only [dayMicros]
    omega
  · have whole : (((hour * 60 + minute) * 60 + second) * 1000000 + nano / 1000) / 1000000 =
        (hour * 60 + minute) * 60 + second := by omega
    have part : (((hour * 60 + minute) * 60 + second) * 1000000 + nano / 1000) % 1000000 * 1000 =
        nano := by omega
    have hours : ((hour * 60 + minute) * 60 + second) / 3600 = hour := by omega
    have minutes : ((hour * 60 + minute) * 60 + second) / 60 % 60 = minute := by omega
    have seconds : ((hour * 60 + minute) * 60 + second) % 60 = second := by omega
    simp only [timeOfMicros?, whole, part, hours, minutes, seconds]
    exact dif_pos ⟨h, m, s, n⟩

theorem timestampOf?_timestampBytes {t : Timestamp} (plain : t.time.IsPlain) :
    timestampOf? (timestampBytes t) = some t := by
  obtain ⟨n, nanos, small, back⟩ := timeOfMicros?_nanosOfDay plain
  obtain ⟨low, high⟩ := t.date.dayNumber_bounds
  have micros : ((t.date.dayNumber - originDay) * dayMicros * 1000 + nanosOfDay t.time).tdiv 1000 =
      (t.date.dayNumber - originDay) * dayMicros + n := by
    rw [nanos, ← Int.add_mul, Int.mul_tdiv_cancel _ (by decide)]
  have bytes : signedOf? 8 (timestampBytes t) =
      some ((t.date.dayNumber - originDay) * dayMicros + n) := by
    simp only [timestampBytes, micros]
    simp only [dayMicros, originDay] at small ⊢
    exact signedOf?_signedBigEndian (by omega) (by omega)
  have day : originDay + ((t.date.dayNumber - originDay) * dayMicros + n) / dayMicros =
      t.date.dayNumber := by
    simp only [dayMicros] at small ⊢
    omega
  have time : (((t.date.dayNumber - originDay) * dayMicros + n) % dayMicros).toNat = n := by
    simp only [dayMicros] at small ⊢
    omega
  simp only [timestampOf?, bytes, Option.bind_eq_bind, Option.bind_some, day, time,
    Date.ofDayNumber?_dayNumber, back]
  rfl

/-! ## Travelling values -/

/-- The value is sent as a parameter of the type, and a column of the type reads what arrives as
another value. -/
def Travels (t : ColumnType) (v w : Value) : Prop :=
  ∃ bytes, bind t v = .ok (some bytes) ∧ ∀ column, decode column t (some bytes) = .ok w

theorem decode_eq_ok {column : String} {t : ColumnType} {bytes : List UInt8} {v : Value} :
    decode column t (some bytes) = .ok v ↔ valueOf? t bytes = some v := by
  unfold decode
  split
  · simp [valueOf?]
  · next none => cases none
  · next same =>
    cases same
    split <;> simp_all

theorem travels_of_bytes {t : ColumnType} {v w : Value} {bytes : List UInt8}
    (present : v.isNull = false) (sent : bytesOf t v = .ok bytes)
    (read : valueOf? t bytes = some w) : Travels t v w :=
  ⟨bytes, by rw [bind, present, sent]; rfl, fun _ => decode_eq_ok.2 read⟩

/-- Half of the words stand for negative numbers. -/
theorem within_half_iff {length : Nat} (some : 0 < length) {n : Int} :
    (-2 ^ (8 * length - 1) ≤ n ∧ n < 2 ^ (8 * length - 1)) ↔
      -(256 ^ length : Nat) ≤ 2 * n ∧ 2 * n < (256 ^ length : Nat) := by
  have whole : (256 ^ length : Nat) = 2 * 2 ^ (8 * length - 1) := by
    rw [← Nat.pow_succ', show (256 : Nat) = 2 ^ 8 from rfl, ← Nat.pow_mul]
    congr 1
    omega
  have cast : (2 : Int) ^ (8 * length - 1) = (2 ^ (8 * length - 1) : Nat) := by simp
  rw [cast]
  omega

theorem travels_bool (b : Bool) : Travels .bool (.bool b) (.bool b) :=
  travels_of_bytes rfl rfl (by cases b <;> rfl)

section

variable {t : ColumnType} {length : Nat} (sends : ∀ n, intBytes n t = signedBytes length n.toInt)
  (reads : ∀ bytes, valueOf? t bytes = (signedOf? length bytes).map intValue) (pos : 0 < length)
include sends reads pos

/-- A column of whole numbers takes those that fit. -/
theorem travels_signed {n : Int64} (low : -(256 ^ length : Nat) ≤ 2 * n.toInt)
    (high : 2 * n.toInt < (256 ^ length : Nat)) : Travels t (.int n) (.int n) := by
  have sent : bytesOf t (.int n) = .ok (signedBigEndian length n.toInt) :=
    (sends n).trans (if_pos ((within_half_iff pos).2 ⟨low, high⟩))
  refine travels_of_bytes rfl sent ?_
  rw [reads, signedOf?_signedBigEndian low high, Option.map_some, intValue, Int64.ofInt_toInt]

/-- What a column of whole numbers holds can be written back to it. -/
theorem travels_of_signed {bytes : List UInt8} {v : Value} (read : valueOf? t bytes = some v)
    (room : length ≤ 8) : Travels t v v := by
  rw [reads] at read
  obtain ⟨n, word, rfl⟩ := Option.map_eq_some_iff.1 read
  obtain ⟨low, high⟩ := signedOf?_bounds word
  have fits : 256 ^ length ≤ 256 ^ 8 := Nat.pow_le_pow_right (by decide) room
  have same : (Int64.ofInt n).toInt = n := Int64.toInt_ofInt_of_le (by omega) (by omega)
  exact travels_signed sends reads pos (by rwa [same]) (by rwa [same])

end

theorem valueOf?_oid (bytes : List UInt8) :
    valueOf? .oid bytes = (unsignedOf? 4 bytes).map fun n : Nat => intValue n := by
  cases h : unsignedOf? 4 bytes <;> simp [valueOf?, h]

theorem travels_oid {n : Nat} (fits : n < 256 ^ 4) : Travels .oid (intValue n) (intValue n) := by
  have same : (Int64.ofInt n).toInt = n := Int64.toInt_ofInt_of_le (by omega) (by omega)
  have sent : unsignedBytes 4 (Int64.ofInt n).toInt = .ok (bigEndian 4 n) := by
    rw [unsignedBytes, same, if_pos ⟨by omega, by omega⟩, Int.toNat_natCast]
  refine travels_of_bytes rfl sent ?_
  rw [valueOf?_oid, unsignedOf?_bigEndian fits]
  rfl

theorem travels_double (x : Double) : Travels .float8 (.float x) (.float x) :=
  travels_of_bytes rfl rfl (congrArg (Option.map Value.float) (floatOf?_floatBytes (by decide) x))

/-- A number of the narrow format is narrow again after it has been made wide. -/
theorem travels_single (x : Single) :
    Travels .float4 (.float (x.convert .double)) (.float (x.convert .double)) := by
  refine travels_of_bytes rfl rfl ?_
  have read := floatOf?_floatBytes (by decide) ((x.convert .double).convert .single)
  simp only [valueOf?, read, Option.map_some, Binary.convert_double_convert_single_convert_double]

theorem travels_decimal (d : Decimal) :
    ∃ e, Travels .numeric (.decimal d) (.decimal e) ∧ d.equal e = true := by
  obtain ⟨e, read, same⟩ := Numeric.exists_toDecimal?_ofBytes? d
  exact ⟨e, travels_of_bytes rfl rfl (congrArg (Option.map Value.decimal) read), same⟩

theorem travels_text {t : ColumnType} {v : Value} {s : String} (character : t.isText = true)
    (present : v.isNull = false) (text : bytesOf t v = textBytes t s) : Travels t v (.text s) := by
  have sent : bytesOf t v = .ok (utf8 s) := by
    rw [text]
    cases t <;> first | rfl | cases character
  refine travels_of_bytes present sent ?_
  cases t <;> first
    | exact congrArg (Option.map Value.text) (ofUtf8?_utf8 s)
    | cases character

theorem travels_enumeration (type s : String) :
    Travels (.enumeration type) (.enumName s) (.enumName s) :=
  travels_of_bytes rfl rfl (congrArg (Option.map Value.enumName) (ofUtf8?_utf8 s))

theorem travels_bytes (bs : List UInt8) : Travels .bytea (.bytes bs) (.bytes bs) :=
  travels_of_bytes rfl rfl rfl

theorem travels_date (d : Date) : Travels .date (.date d) (.date d) := by
  obtain ⟨low, high⟩ := d.dayNumber_bounds
  have read : signedOf? 4 (signedBigEndian 4 (d.dayNumber - originDay)) =
      some (d.dayNumber - originDay) := by
    simp only [originDay]
    exact signedOf?_signedBigEndian (by omega) (by omega)
  refine travels_of_bytes rfl rfl ?_
  simp only [valueOf?, read, Option.bind_eq_bind, Option.bind_some, add_sub_cancel,
    Date.ofDayNumber?_dayNumber]
  rfl

theorem travels_time {t : TimeOfDay} (plain : t.IsPlain) : Travels .time (.time t) (.time t) := by
  obtain ⟨n, nanos, small, back⟩ := timeOfMicros?_nanosOfDay plain
  have micros : nanosOfDay t / 1000 = n := by omega
  simp only [dayMicros] at small
  have read : signedOf? 8 (timeBytes t) = some (n : Int) := by
    rw [timeBytes, micros]
    exact signedOf?_signedBigEndian (by omega) (by omega)
  have rest : ((n : Int) % dayMicros).toNat = n := by
    simp only [dayMicros]
    omega
  refine travels_of_bytes rfl rfl ?_
  simp only [valueOf?, read, Option.bind_eq_bind, Option.bind_some, rest, back]
  rfl

theorem travels_timestamp {t : Timestamp} (plain : t.time.IsPlain) :
    Travels .timestamp (.timestamp t) (.timestamp t) :=
  travels_of_bytes rfl rfl
    (congrArg (Option.map Value.timestamp) (timestampOf?_timestampBytes plain))

theorem travels_timestamptz {t : Timestamp} (plain : t.time.IsPlain) :
    Travels .timestamptz (.timestampUtc t) (.timestampUtc t) :=
  travels_of_bytes rfl rfl
    (congrArg (Option.map Value.timestampUtc) (timestampOf?_timestampBytes plain))

theorem travels_uuid (u : Uuid) : Travels .uuid (.uuid u) (.uuid u) :=
  travels_of_bytes rfl rfl (congrArg (Option.map Value.uuid) (dif_pos u.length_eq))

theorem travels_json {j : Json} (read : Json.read j.chars = some j) :
    Travels .json (.json j) (.json j) :=
  travels_of_bytes rfl rfl (congrArg (Option.map Value.json) (readJson?_text read))

theorem travels_jsonb {j : Json} (read : Json.read j.chars = some j) :
    Travels .jsonb (.json j) (.json j) :=
  travels_of_bytes rfl rfl (congrArg (Option.map Value.json) (readJson?_text read))

/-! ## What has been read -/

theorem isPlain_of_timestampOf? {bytes : List UInt8} {t : Timestamp}
    (read : timestampOf? bytes = some t) : t.time.IsPlain := by
  simp only [timestampOf?, Option.bind_eq_bind, Option.bind_eq_some_iff] at read
  obtain ⟨micros, -, date, -, time, word, ⟨⟩⟩ := read
  exact timeOfMicros?_isPlain word

/-- What a column holds can be written back to it, unless it holds single bytes. -/
theorem travels_of_read {t : ColumnType} {bytes : List UInt8} {v : Value}
    (wide : t ≠ .char) (read : valueOf? t bytes = some v)
    (json : ∀ j, v = .json j → Json.read j.chars = some j) : ∃ w, Travels t v w ∧ v.Same w := by
  have itself (travels : Travels t v v) : ∃ w, Travels t v w ∧ v.Same w := ⟨v, travels, .refl v⟩
  cases t with
  | char => exact absurd rfl wide
  | other name => cases read
  | bool =>
    obtain ⟨n, -, rfl⟩ := Option.map_eq_some_iff.1 read
    exact itself (travels_bool _)
  | int2 | int4 | int8 =>
    exact itself
      (travels_of_signed (fun _ => rfl) (fun _ => rfl) (by decide) read (by decide))
  | oid =>
    rw [valueOf?_oid] at read
    obtain ⟨n, word, rfl⟩ := Option.map_eq_some_iff.1 read
    exact itself (travels_oid (unsignedOf?_lt word))
  | float4 =>
    obtain ⟨x, -, rfl⟩ := Option.map_eq_some_iff.1 read
    exact itself (travels_single x)
  | float8 =>
    obtain ⟨x, -, rfl⟩ := Option.map_eq_some_iff.1 read
    exact itself (travels_double x)
  | numeric =>
    obtain ⟨d, -, rfl⟩ := Option.map_eq_some_iff.1 read
    obtain ⟨e, travels, same⟩ := travels_decimal d
    exact ⟨.decimal e, travels, .inr ⟨d, e, rfl, rfl, same⟩⟩
  | text | varchar | bpchar | name | unknown =>
    obtain ⟨s, -, rfl⟩ := Option.map_eq_some_iff.1 read
    exact itself (travels_text rfl rfl rfl)
  | bytea =>
    obtain rfl := Option.some.inj read
    exact itself (travels_bytes bytes)
  | date =>
    simp only [valueOf?, Option.bind_eq_bind, Option.bind_eq_some_iff] at read
    obtain ⟨n, -, d, -, ⟨⟩⟩ := read
    exact itself (travels_date d)
  | time =>
    simp only [valueOf?, Option.bind_eq_bind, Option.bind_eq_some_iff] at read
    obtain ⟨n, -, x, word, ⟨⟩⟩ := read
    exact itself (travels_time (timeOfMicros?_isPlain word))
  | timestamp =>
    obtain ⟨x, word, rfl⟩ := Option.map_eq_some_iff.1 read
    exact itself (travels_timestamp (isPlain_of_timestampOf? word))
  | timestamptz =>
    obtain ⟨x, word, rfl⟩ := Option.map_eq_some_iff.1 read
    exact itself (travels_timestamptz (isPlain_of_timestampOf? word))
  | uuid =>
    obtain ⟨u, -, rfl⟩ := Option.map_eq_some_iff.1 read
    exact itself (travels_uuid u)
  | json =>
    obtain ⟨j, -, rfl⟩ := Option.map_eq_some_iff.1 read
    exact itself (travels_json (json j rfl))
  | jsonb =>
    simp only [valueOf?] at read
    split at read
    · obtain ⟨j, -, rfl⟩ := Option.map_eq_some_iff.1 read
      exact itself (travels_jsonb (json j rfl))
    · cases read
  | enumeration type =>
    obtain ⟨s, -, rfl⟩ := Option.map_eq_some_iff.1 read
    exact itself (travels_enumeration type s)

/-- What has been read from a column can be written back to it, exactly when the column does not
hold single bytes: these are read as integers, which are not sent for them. -/
theorem travels_iff {column : String} {t : ColumnType} {bytes : List UInt8} {v : Value}
    (read : decode column t (some bytes) = .ok v)
    (json : ∀ j, v = .json j → Json.read j.chars = some j) :
    (∃ w, Travels t v w ∧ v.Same w) ↔ t ≠ .char := by
  have value := decode_eq_ok.1 read
  constructor
  · rintro ⟨w, ⟨sent, bound, -⟩, -⟩ rfl
    obtain ⟨n, -, rfl⟩ := Option.map_eq_some_iff.1 value
    cases bound
  · intro wide
    exact travels_of_read wide value json

/-- The items `true` and `7`. -/
def sampleJson : Json := .array [.bool true, .integer 7]

theorem travels_iff_json :
    (decode "tags" .json (some (utf8 sampleJson.text)) = .ok (.json sampleJson) ∧
      Json.read sampleJson.chars = some sampleJson) ∧
    ((∃ w, Travels .json (.json sampleJson) w ∧ (Value.json sampleJson).Same w) ↔
      ColumnType.json ≠ .char) := by
  have text : Json.read sampleJson.chars = some sampleJson :=
    Value.isPlain_json ⟨trivial, ⟨by decide, by decide⟩, trivial⟩
  have read : decode "tags" .json (some (utf8 sampleJson.text)) = .ok (.json sampleJson) :=
    decode_eq_ok.2 (congrArg (Option.map Value.json) (readJson?_text text))
  exact ⟨⟨read, text⟩, travels_iff read fun j same => by cases same; exact text⟩

/-- A single byte is read, and not sent. -/
theorem not_travels_char :
    decode "kind" .char (some [5]) = .ok (.int 5) ∧ bind .char (.int 5) = .error .wrongType ∧
      ¬ ∃ w, Travels .char (.int 5) w ∧ (Value.int 5).Same w := by
  refine ⟨rfl, rfl, ?_⟩
  rintro ⟨w, ⟨sent, bound, -⟩, -⟩
  cases bound

end Postgres

end DataMapper
