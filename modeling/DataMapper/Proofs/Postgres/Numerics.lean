import DataMapper.Postgres.Numeric
import DataMapper.Proofs.Number.Rounding
import Mathlib.Data.List.DropRight
import Mathlib.Data.List.Induction

/-!
# Decimals as numerics

A decimal is cut into digits to the base 10000, sent as bytes and put together again digit by digit.
No step rounds: a digit behind the point has no part below the decimal's own last place, so the sum
never has more places than the decimal and never a greater mantissa.

## Main statements

* `Numeric.ofBytes?_bytes` — a numeric that fits its words comes back from its bytes.
* `Numeric.toDecimal?_ofDecimal` — a decimal comes back from its numeric.
-/

namespace DataMapper.Postgres

open Number

/-! ## Digits -/

/-- The number that digits to the base 10000 stand for. -/
def ofMyriads (ds : List Nat) : Nat := ds.foldl (fun w d => w * 10000 + d) 0

@[simp] theorem ofMyriads_nil : ofMyriads [] = 0 := rfl

theorem ofMyriads_append_singleton (ds : List Nat) (d : Nat) :
    ofMyriads (ds ++ [d]) = ofMyriads ds * 10000 + d := by
  simp [ofMyriads]

theorem ofMyriads_append (ds es : List Nat) :
    ofMyriads (ds ++ es) = ofMyriads ds * 10000 ^ es.length + ofMyriads es := by
  induction es using List.reverseRecOn with
  | nil => simp
  | append_singleton es e ih =>
    rw [← List.append_assoc, ofMyriads_append_singleton, ih, ofMyriads_append_singleton,
      List.length_append, List.length_singleton, Nat.pow_succ]
    ring

theorem ofMyriads_cons (d : Nat) (ds : List Nat) :
    ofMyriads (d :: ds) = d * 10000 ^ ds.length + ofMyriads ds := by
  simpa [ofMyriads] using ofMyriads_append [d] ds

theorem ofMyriads_myriads (n : Nat) : ofMyriads (myriads n) = n := by
  induction n using myriads.induct with
  | case1 => rw [myriads, if_pos rfl, ofMyriads_nil]
  | case2 n nonzero ih =>
    rw [myriads, if_neg nonzero, ofMyriads_append_singleton, ih]
    omega

theorem lt_of_mem_myriads {n d : Nat} (mem : d ∈ myriads n) : d < 10000 := by
  induction n using myriads.induct with
  | case1 => rw [myriads, if_pos rfl] at mem; contradiction
  | case2 n nonzero ih =>
    rw [myriads, if_neg nonzero, List.mem_append, List.mem_singleton] at mem
    rcases mem with front | rfl
    · exact ih front
    · omega

theorem length_myriads_le {n k : Nat} (fits : n < 10000 ^ k) : (myriads n).length ≤ k := by
  induction n using myriads.induct generalizing k with
  | case1 => simp [myriads]
  | case2 n nonzero ih =>
    cases k with
    | zero => simp at fits; omega
    | succ k =>
      rw [Nat.pow_succ] at fits
      have := @ih k (by omega)
      rw [myriads, if_neg nonzero, List.length_append, List.length_singleton]
      omega

namespace Numeric

/-! ## Bytes -/

theorem readWord_bigEndian {n : Nat} (fits : n < 256 ^ 2) (rest : List UInt8) :
    readWord (bigEndian 2 n ++ rest) = some (n, rest) := by
  have back := ofBigEndian_bigEndian fits
  exact congrArg (fun n => some (n, rest)) back

theorem readWords_flatMap {ds : List Nat} (fits : ∀ d ∈ ds, d < 256 ^ 2) :
    readWords ds.length (ds.flatMap (bigEndian 2)) = some ds := by
  induction ds with
  | nil => rfl
  | cons d ds ih =>
    have first := readWord_bigEndian (fits d (by simp)) (ds.flatMap (bigEndian 2))
    have others := ih fun e he => fits e (by simp [he])
    rw [List.flatMap_cons, List.length_cons, readWords, first]
    simp only [Option.bind_eq_bind, Option.bind_some, others]
    rfl

/-- Does every part of the numeric have room in its word? -/
structure Fits (n : Numeric) : Prop where
  length_lt : n.digits.length < 256 ^ 2
  weight_mem : -(256 ^ 2 : Nat) ≤ 2 * n.weight ∧ 2 * n.weight < (256 ^ 2 : Nat)
  places_lt : n.places < 256 ^ 2
  digits_lt : ∀ d ∈ n.digits, d < 256 ^ 2

/-- A numeric comes back from its bytes. -/
theorem ofBytes?_bytes {n : Numeric} (fits : n.Fits) : ofBytes? n.bytes = some n := by
  obtain ⟨negative, weight, places, digits⟩ := n
  obtain ⟨length, ⟨low, high⟩, room, small⟩ := fits
  have sign : (if negative then negativeSign else 0) < 256 ^ 2 := by cases negative <;> decide
  have fine : (if negative then negativeSign else 0) ∉ specialSigns := by
    cases negative <;> decide
  have same : ((if negative then negativeSign else 0) == negativeSign) = negative := by
    cases negative <;> rfl
  have word : (weight % (256 ^ 2 : Nat)).toNat < 256 ^ 2 := by omega
  have weightBack := ofSignedBigEndian_signedBigEndian low high
  simp only [bytes, List.append_assoc, ofBytes?, readWord_bigEndian length, Option.bind_eq_bind,
    Option.bind_some]
  rw [List.take_left' (by simp [signedBigEndian]), weightBack, signedBigEndian,
    readWord_bigEndian word]
  simp only [readWord_bigEndian sign, readWord_bigEndian room, Option.bind_some, if_neg fine,
    readWords_flatMap small, same]
  rfl

/-! ## The digits behind the point -/

/-- What digits count that begin a number of places behind the point, in units of `10^-28`. -/
def weigh (place : Nat) : List Nat → Nat
  | [] => 0
  | d :: ds => d * 10 ^ (28 - place) + weigh (place + 4) ds

theorem weigh_append_zeros (place : Nat) (ds : List Nat) (n : Nat) :
    weigh place (ds ++ List.replicate n 0) = weigh place ds := by
  induction ds generalizing place with
  | nil =>
    induction n generalizing place with
    | zero => rfl
    | succ n ih => simpa [weigh, List.replicate_succ] using ih (place + 4)
  | cons d ds ih => simp [weigh, ih]

/-- Digits that end at a place are units of that place. -/
theorem weigh_eq {place last : Nat} {ds : List Nat} (ends : place + 4 * ds.length = last + 4)
    (room : last ≤ 28) : weigh place ds = ofMyriads ds * 10 ^ (28 - last) := by
  induction ds generalizing place with
  | nil => simp [weigh]
  | cons d ds ih =>
    rw [List.length_cons] at ends
    have unit : 10 ^ (28 - place) = 10000 ^ ds.length * 10 ^ (28 - last) := by
      rw [show (10000 : Nat) = 10 ^ 4 from rfl, ← Nat.pow_mul, ← Nat.pow_add]
      congr 1
      omega
    rw [weigh, ih (by omega), ofMyriads_cons, unit]
    ring

/-- Zeros at the end of a digit are taken away, and with them their places. -/
theorem dropZeros_spec (digit place : Nat) (room : place ≤ 28) :
    ∃ d p, Decimal.dropZeros digit place = (d, p) ∧ p ≤ place ∧ (p = 0 ∨ d % 10 ≠ 0) ∧
      digit * 10 ^ (28 - place) = d * 10 ^ (28 - p) := by
  induction place generalizing digit with
  | zero => exact ⟨digit, 0, by rw [Decimal.dropZeros], le_rfl, .inl rfl, rfl⟩
  | succ place ih =>
    rw [Decimal.dropZeros]
    split
    · next round =>
      obtain ⟨d, p, eq, le, ends, value⟩ := ih (digit / 10) (by omega)
      refine ⟨d, p, eq, by omega, ends, ?_⟩
      rw [← value, show 28 - place = 28 - (place + 1) + 1 by omega, Nat.pow_succ]
      obtain ⟨q, rfl⟩ := Nat.dvd_of_mod_eq_zero round
      rw [Nat.mul_div_cancel_left q (by decide)]
      ring
    · next sharp => exact ⟨digit, place + 1, rfl, le_rfl, .inr sharp, rfl⟩

theorem fit?_of_lt {mantissa : Nat} (small : mantissa < 2 ^ 96) (scale : Nat) :
    fit? mantissa scale = some (mantissa, scale) := by
  have same : roundDiv mantissa 1 = mantissa := by
    simpa using roundDiv_mul (d := 1) (by decide) mantissa
  cases scale <;> simp [fit?, fitFrom, same, small]

section

variable {m s : Nat} (fits : m < 2 ^ 96) (room : s ≤ 28)
include fits room

/-- One digit. Its last place is not behind the last place of the total, so the sum stays a part of
the total and has room. -/
theorem addDigit?_exact {M σ digit place rest : Nat} (hσ : σ ≤ s) (near : place ≤ 28)
    (last : place ≤ s ∨ rest = 0)
    (total : M * 10 ^ (28 - σ) + (digit * 10 ^ (28 - place) + rest) = m * 10 ^ (28 - s)) :
    ∃ M' σ', addDigit? (M, σ) digit place = some (M', σ') ∧ σ' ≤ s ∧
      M' * 10 ^ (28 - σ') + rest = m * 10 ^ (28 - s) := by
  have unit {p : Nat} (hp : p ≤ s) : 10 ^ (28 - p) = 10 ^ (s - p) * 10 ^ (28 - s) := by
    rw [← Nat.pow_add]
    congr 1
    omega
  by_cases none : digit = 0
  · refine ⟨M, σ, by rw [addDigit?, if_pos none], hσ, ?_⟩
    simpa [none] using total
  obtain ⟨d, p, eq, le, ends, value⟩ := dropZeros_spec digit place near
  rw [value] at total
  have hp : p ≤ s := by
    by_contra behind
    have whole : rest = 0 := last.resolve_left (by omega)
    have divides : 10 ^ (28 - s) ∣ d * 10 ^ (28 - p) := by
      have : 10 ^ (28 - s) ∣ M * 10 ^ (28 - σ) := by
        rw [unit hσ, ← Nat.mul_assoc]
        exact Nat.dvd_mul_left _ _
      rw [whole, Nat.add_zero] at total
      exact (Nat.dvd_add_right this).1 ⟨m, by rw [total, Nat.mul_comm]⟩
    have split : 10 ^ (28 - s) = 10 * 10 ^ (p - s - 1) * 10 ^ (28 - p) := by
      rw [← Nat.pow_succ', ← Nat.pow_add]
      congr 1
      omega
    rw [split] at divides
    have ten : 10 ∣ d := dvd_of_mul_right_dvd
      (Nat.dvd_of_mul_dvd_mul_right (by positivity) divides)
    omega
  obtain ⟨scale, hscale⟩ : ∃ scale, scale = max σ p := ⟨_, rfl⟩
  obtain ⟨M', hM'⟩ : ∃ M', M' = M * 10 ^ (scale - σ) + d * 10 ^ (scale - p) := ⟨_, rfl⟩
  have sum : M' * 10 ^ (28 - scale) = M * 10 ^ (28 - σ) + d * 10 ^ (28 - p) := by
    rw [hM', Nat.add_mul, Nat.mul_assoc, Nat.mul_assoc, ← Nat.pow_add, ← Nat.pow_add]
    congr 3 <;> omega
  have small : M' < 2 ^ 96 := by
    have : M' * 10 ^ (28 - scale) ≤ m * 10 ^ (28 - scale) := by
      calc M' * 10 ^ (28 - scale) ≤ m * 10 ^ (28 - s) := by omega
        _ ≤ m * 10 ^ (28 - scale) :=
          Nat.mul_le_mul_left _ (Nat.pow_le_pow_right (by decide) (by omega))
    exact lt_of_le_of_lt (Nat.le_of_mul_le_mul_right this (by positivity)) fits
  refine ⟨M', scale, ?_, by omega, by omega⟩
  rw [addDigit?, if_neg none, eq]
  simp only [← hscale, ← hM']
  exact fit?_of_lt small scale

/-- All digits. -/
theorem addFraction?_exact {M σ place : Nat} {ds : List Nat} (hσ : σ ≤ s) (four : 4 ∣ place)
    (near : place + 4 * ds.length < s + 8)
    (total : M * 10 ^ (28 - σ) + weigh place ds = m * 10 ^ (28 - s)) :
    ∃ M' σ', addFraction? (M, σ) place ds = some (M', σ') ∧ σ' ≤ s ∧
      M' * 10 ^ (28 - σ') = m * 10 ^ (28 - s) := by
  induction ds generalizing M σ place with
  | nil => exact ⟨M, σ, rfl, hσ, total⟩
  | cons d ds ih =>
    rw [List.length_cons] at near
    have before : place ≤ 28 := by omega
    have last : place ≤ s ∨ weigh (place + 4) ds = 0 := by
      by_cases inside : place ≤ s
      · exact .inl inside
      · have : ds = [] := List.length_eq_zero_iff.1 (by omega)
        exact .inr (by rw [this, weigh])
    obtain ⟨M₁, σ₁, eq₁, hσ₁, total₁⟩ := addDigit?_exact fits room hσ before last total
    obtain ⟨M₂, σ₂, eq₂, hσ₂, total₂⟩ := ih hσ₁ (by omega) (by omega) total₁
    refine ⟨M₂, σ₂, ?_, hσ₂, total₂⟩
    simp only [addFraction?, if_pos before, eq₁, Option.bind_eq_bind, Option.bind_some, eq₂]

theorem fillPlaces_exact {n M σ : Nat} (hσ : σ + n = s) (value : M * 10 ^ n = m) :
    fillPlaces M σ n = (m, s) := by
  induction n generalizing M σ with
  | zero => simp_all [fillPlaces]
  | succ n ih =>
    have steps : M * 10 * 10 ^ n = m := by rw [← value, Nat.pow_succ']; ring
    have small : M * 10 < 2 ^ 96 := by
      refine lt_of_le_of_lt ?_ fits
      rw [← steps]
      exact Nat.le_mul_of_pos_right _ (by positivity)
    rw [fillPlaces, if_pos ⟨small, by omega⟩]
    exact ih (by omega) steps

/-- The places of the total. -/
theorem toPlaces_exact {M σ : Nat} (nonzero : m ≠ 0) (hσ : σ ≤ s)
    (value : M * 10 ^ (28 - σ) = m * 10 ^ (28 - s)) : toPlaces M σ s = (m, s) := by
  have steps : M * 10 ^ (s - σ) = m := by
    refine Nat.eq_of_mul_eq_mul_right (by positivity : 0 < 10 ^ (28 - s)) ?_
    rw [← value, Nat.mul_assoc, ← Nat.pow_add]
    congr 2
    omega
  have some_ : M ≠ 0 := by
    rintro rfl
    exact nonzero (by rw [← steps, Nat.zero_mul])
  rw [toPlaces, if_neg some_]
  split
  · next same =>
    obtain rfl : σ = s := by omega
    simp_all
  · next less => exact fillPlaces_exact fits room (by omega) steps

end

/-! ## Decimals -/

/-- The digits of a decimal up to a whole one: behind the point stand `(scale + 3) / 4` of them. -/
theorem shifted_lt (d : Decimal) :
    d.mantissa * 10 ^ ((d.scale + 3) / 4 * 4 - d.scale) < 10000 ^ 8 := by
  have small := d.mantissa_lt
  have shift : 10 ^ ((d.scale + 3) / 4 * 4 - d.scale) ≤ 10 ^ 3 :=
    Nat.pow_le_pow_right (by decide) (by omega)
  calc d.mantissa * 10 ^ ((d.scale + 3) / 4 * 4 - d.scale) ≤ d.mantissa * 10 ^ 3 :=
        Nat.mul_le_mul_left _ shift
    _ < 10000 ^ 8 := by omega

theorem dropWhile_zeros (ds : List Nat) :
    ∃ n, ds = (ds.reverse.dropWhile (· == 0)).reverse ++ List.replicate n 0 := by
  have zeros : ∀ d ∈ ds.rtakeWhile (· == 0), d = 0 := fun d mem => by
    simpa using List.mem_rtakeWhile_imp mem
  refine ⟨(ds.rtakeWhile (· == 0)).length, ?_⟩
  rw [← List.eq_replicate_of_mem zeros]
  exact List.rdropWhile_append_rtakeWhile.symm

/-- The digits of the decimal without its point, up to a whole one behind it. -/
def shiftedDigits (d : Decimal) : List Nat :=
  myriads (d.mantissa * 10 ^ ((d.scale + 3) / 4 * 4 - d.scale))

/-- Behind the point only zeros at the end are left out. -/
theorem ofDecimal_eq {d : Decimal} (nonzero : d.mantissa ≠ 0) :
    ∃ kept zeros,
      ofDecimal d = ⟨d.negative, (shiftedDigits d).length - ((d.scale + 3) / 4 : Nat) - 1, d.scale,
        (shiftedDigits d).take ((shiftedDigits d).length - (d.scale + 3) / 4) ++ kept⟩ ∧
      (shiftedDigits d).drop ((shiftedDigits d).length - (d.scale + 3) / 4) =
        kept ++ List.replicate zeros 0 := by
  have digits : myriads (d.mantissa * 10 ^ ((d.scale + 3) / 4 * 4 - d.scale)) =
      shiftedDigits d := rfl
  simp only [ofDecimal, if_neg nonzero, digits]
  generalize (shiftedDigits d).drop ((shiftedDigits d).length - (d.scale + 3) / 4) = fraction
  split
  · exact ⟨fraction, 0, rfl, by simp⟩
  · obtain ⟨zeros, strip⟩ := dropWhile_zeros fraction
    exact ⟨_, zeros, rfl, strip⟩

theorem length_shiftedDigits_le (d : Decimal) : (shiftedDigits d).length ≤ 8 :=
  length_myriads_le (shifted_lt d)

/-- A decimal comes back from its numeric. -/
theorem toDecimal?_ofDecimal {d : Decimal} (nonzero : d.mantissa ≠ 0) :
    toDecimal? (ofDecimal d) = some d := by
  obtain ⟨kept, zeros, form, strip⟩ := ofDecimal_eq nonzero
  obtain ⟨ds, hds⟩ : ∃ ds, ds = shiftedDigits d := ⟨_, rfl⟩
  obtain ⟨B, hB⟩ : ∃ B, B = (d.scale + 3) / 4 := ⟨_, rfl⟩
  obtain ⟨k, hk⟩ : ∃ k, k = ds.length - B := ⟨_, rfl⟩
  have shifted : ofMyriads ds = d.mantissa * 10 ^ (B * 4 - d.scale) := by
    rw [hds, shiftedDigits, ofMyriads_myriads, hB]
  rw [← hds, ← hB, ← hk] at form strip
  obtain ⟨negative, m, s, fits, room⟩ := d
  dsimp only at nonzero form shifted hB
  have short : kept.length ≤ (ds.drop k).length := by rw [strip]; simp
  rw [List.length_drop] at short
  -- the digits before the point and those behind it
  have sum : ofMyriads (ds.take k) * 10000 ^ B + ofMyriads (ds.drop k) = m * 10 ^ (B * 4 - s) := by
    have parts := ofMyriads_append (ds.take k) (ds.drop k)
    rw [List.take_append_drop, List.length_drop, shifted] at parts
    rw [parts]
    by_cases long : B ≤ ds.length
    · rw [hk, Nat.sub_sub_self long]
    · rw [show k = 0 by omega, List.take_zero, ofMyriads_nil, Nat.zero_mul, Nat.zero_mul]
  have whole : ofMyriads (ds.take k) < 2 ^ 96 := by
    have : ofMyriads (ds.take k) * 10000 ^ B ≤ m * 10000 ^ B := by
      calc ofMyriads (ds.take k) * 10000 ^ B ≤ m * 10 ^ (B * 4 - s) := by omega
        _ ≤ m * 10 ^ (4 * B) := Nat.mul_le_mul_left _ (Nat.pow_le_pow_right (by decide) (by omega))
        _ = m * 10000 ^ B := by rw [Nat.pow_mul]
    exact lt_of_le_of_lt (Nat.le_of_mul_le_mul_right this (by positivity)) fits
  have total : ofMyriads (ds.take k) * 10 ^ (28 - 0) + weigh (4 * (B - ds.length + 1)) kept =
      m * 10 ^ (28 - s) := by
    have behind : weigh (4 * (B - ds.length + 1)) kept =
        ofMyriads (ds.drop k) * 10 ^ (28 - 4 * B) := by
      rw [← weigh_append_zeros _ kept zeros, ← strip]
      refine weigh_eq ?_ (by omega)
      rw [List.length_drop]
      omega
    have unit : 10 ^ (28 - 0) = 10000 ^ B * 10 ^ (28 - 4 * B) := by
      rw [show (10000 : Nat) = 10 ^ 4 from rfl, ← Nat.pow_mul, ← Nat.pow_add]
      congr 1
      omega
    have places : 10 ^ (28 - s) = 10 ^ (B * 4 - s) * 10 ^ (28 - 4 * B) := by
      rw [← Nat.pow_add]
      congr 1
      omega
    rw [behind, unit, places, ← Nat.mul_assoc, ← Nat.mul_assoc, ← Nat.add_mul, sum]
  obtain ⟨M, σ, added, hσ, value⟩ := addFraction?_exact fits room (Nat.zero_le s)
    (Nat.dvd_mul_right 4 _) (by omega) total
  have first : (((ds.length : Int) - B - 1) + 1).toNat = k := by omega
  have place : (-((ds.length : Int) - B - 1) - 1).toNat = B - ds.length := by omega
  have length : (ds.take k).length = k := by rw [List.length_take]; omega
  have start : (ds.take k).foldl (fun w d => w * 10000 + d) 0 = ofMyriads (ds.take k) := rfl
  rw [form]
  simp only [toDecimal?, first, place, List.take_left' length, List.drop_left' length, length,
    Nat.sub_self, Nat.pow_zero, Nat.mul_one, start, if_neg (Nat.not_le.2 whole), added,
    Option.bind_eq_bind, Option.bind_some, toPlaces_exact fits room nonzero hσ value]
  exact dif_pos ⟨fits, room⟩

theorem fits_ofDecimal (d : Decimal) : (ofDecimal d).Fits := by
  by_cases zero : d.mantissa = 0
  · rw [ofDecimal, if_pos zero]
    exact ⟨by decide, by decide, by decide, by simp⟩
  obtain ⟨kept, zeros, form, strip⟩ := ofDecimal_eq zero
  have few := length_shiftedDigits_le d
  have room := d.scale_le
  have small : ∀ e ∈ shiftedDigits d, e < 256 ^ 2 :=
    fun e mem => (lt_of_mem_myriads mem).trans (by decide)
  have short : kept.length ≤ 8 := by
    have := congrArg List.length strip
    rw [List.length_drop, List.length_append] at this
    omega
  rw [form]
  refine ⟨?_, by dsimp only; omega, by dsimp only; omega, fun e mem => ?_⟩
  · rw [List.length_append, List.length_take]
    omega
  · rcases List.mem_append.1 mem with front | behind
    · exact small e (List.mem_of_mem_take front)
    · refine small e (List.mem_of_mem_drop (i := (shiftedDigits d).length - (d.scale + 3) / 4) ?_)
      rw [strip]
      exact List.mem_append_left _ behind

/-- A decimal comes back from the bytes of its numeric. Only zero loses its places and its sign. -/
theorem exists_toDecimal?_ofBytes? (d : Decimal) :
    ∃ e, (ofBytes? (ofDecimal d).bytes).bind toDecimal? = some e ∧ d.equal e = true := by
  rw [ofBytes?_bytes (fits_ofDecimal d), Option.bind_some]
  by_cases zero : d.mantissa = 0
  · refine ⟨.zero, ?_, ?_⟩
    · rw [ofDecimal, if_pos zero]
      rfl
    · simp [Decimal.equal, Decimal.scaled, Decimal.zero, zero]
  · exact ⟨d, toDecimal?_ofDecimal zero, by simp [Decimal.equal]⟩

end Numeric

end DataMapper.Postgres
