import DataMapper.Number.Binary
import Mathlib.Algebra.Order.Field.Power
import Mathlib.Data.Rat.Floor
import Mathlib.Tactic.FieldSimp

/-!
# Numbers that need no rounding

A quotient that is a word of the format is the word nearest to it. So a finite number comes back
from its value, and a number of the narrow format comes back from the wide one.

## Main statements

* `Format.nearest_of_exact` — the word of a quotient that has one.
* `Binary.nearest_toRat` — a finite number is nearest to its own value.
* `Binary.convert_single_convert_double` — a number of the narrow format comes back.
-/

namespace DataMapper.Number

/-! ## Powers of two -/

theorem two_zpow_pos (k : Int) : (0 : ℚ) < 2 ^ k := zpow_pos two_pos k

theorem two_zpow_add (k l : Int) : (2 : ℚ) ^ (k + l) = 2 ^ k * 2 ^ l := zpow_add₀ two_ne_zero k l

theorem two_zpow_of_nonneg {k : Int} (h : 0 ≤ k) : (2 : ℚ) ^ k = (2 ^ k.toNat : Nat) := by
  conv_lhs => rw [← Int.toNat_of_nonneg h]
  rw [zpow_natCast, Nat.cast_pow]
  rfl

theorem two_zpow_of_nonpos {k : Int} (h : k ≤ 0) : (2 : ℚ) ^ k * (2 ^ (-k).toNat : Nat) = 1 := by
  rw [← two_zpow_of_nonneg (by omega), ← two_zpow_add, add_neg_cancel, zpow_zero]

/-- The power of two at or below a natural number. -/
theorem two_zpow_log2 {n : Nat} (h : n ≠ 0) :
    (2 : ℚ) ^ (n.log2 : Int) ≤ n ∧ (n : ℚ) < 2 ^ (n.log2 + 1 : Int) := by
  have low : 2 ^ n.log2 ≤ n := Nat.log2_self_le h
  have high : n < 2 ^ (n.log2 + 1) := Nat.lt_log2_self
  rw [two_zpow_of_nonneg (by omega), two_zpow_of_nonneg (by omega)]
  constructor
  · exact_mod_cast low
  · exact_mod_cast high

theorem floorLog2_spec {num den : Nat} (hn : num ≠ 0) (hd : den ≠ 0) :
    (2 : ℚ) ^ floorLog2 num den * den ≤ num ∧ (num : ℚ) < 2 ^ (floorLog2 num den + 1) * den := by
  obtain ⟨numLow, numHigh⟩ := two_zpow_log2 hn
  obtain ⟨denLow, denHigh⟩ := two_zpow_log2 hd
  obtain ⟨k, hk⟩ : ∃ k : Int, k = (num.log2 : Int) - den.log2 := ⟨_, rfl⟩
  have low : (2 : ℚ) ^ (k - 1) * den ≤ num := by
    calc (2 : ℚ) ^ (k - 1) * den ≤ 2 ^ (k - 1) * 2 ^ (den.log2 + 1 : Int) :=
          mul_le_mul_of_nonneg_left denHigh.le (two_zpow_pos _).le
      _ = 2 ^ (num.log2 : Int) := by rw [← two_zpow_add]; congr 1; omega
      _ ≤ num := numLow
  have high : (num : ℚ) < 2 ^ (k + 1) * den := by
    calc (num : ℚ) < 2 ^ (num.log2 + 1 : Int) := numHigh
      _ = 2 ^ (k + 1) * 2 ^ (den.log2 : Int) := by rw [← two_zpow_add]; congr 1; omega
      _ ≤ 2 ^ (k + 1) * den := mul_le_mul_of_nonneg_left denLow (two_zpow_pos _).le
  have below : (if 0 ≤ k then num < den * 2 ^ k.toNat else num * 2 ^ (-k).toNat < den) ↔
      (num : ℚ) < 2 ^ k * den := by
    split
    · next nonneg =>
      rw [two_zpow_of_nonneg nonneg, mul_comm]
      exact_mod_cast Iff.rfl
    · next negative =>
      have cancel := two_zpow_of_nonpos (k := k) (by omega)
      have pos : (0 : ℚ) < (2 ^ (-k).toNat : Nat) := by positivity
      rw [← mul_lt_mul_iff_left₀ pos, mul_right_comm, cancel, one_mul]
      exact_mod_cast Iff.rfl
  have value : floorLog2 num den = if (num : ℚ) < 2 ^ k * den then k - 1 else k := by
    unfold floorLog2
    simp only [← hk]
    exact if_congr below rfl rfl
  rw [value]
  split
  · next less => exact ⟨low, by rwa [sub_add_cancel]⟩
  · next more => exact ⟨not_lt.1 more, high⟩

theorem floorLog2_unique {num den : Nat} {k : Int} (hd : den ≠ 0) (low : (2 : ℚ) ^ k * den ≤ num)
    (high : (num : ℚ) < 2 ^ (k + 1) * den) : floorLog2 num den = k := by
  have pos : (0 : ℚ) < den := by positivity
  have hn : num ≠ 0 := by
    rintro rfl
    have := mul_pos (two_zpow_pos k) pos
    rw [Nat.cast_zero] at low
    linarith
  obtain ⟨low', high'⟩ := floorLog2_spec hn hd
  have first : (2 : ℚ) ^ k < 2 ^ (floorLog2 num den + 1) :=
    (mul_lt_mul_iff_left₀ pos).1 (low.trans_lt high')
  have second : (2 : ℚ) ^ floorLog2 num den < 2 ^ (k + 1) :=
    (mul_lt_mul_iff_left₀ pos).1 (low'.trans_lt high)
  have := (zpow_lt_zpow_iff_right₀ (one_lt_two : (1 : ℚ) < 2)).1 first
  have := (zpow_lt_zpow_iff_right₀ (one_lt_two : (1 : ℚ) < 2)).1 second
  omega

/-! ## Quotients that are words -/

theorem roundDiv_mul {d : Nat} (h : d ≠ 0) (q : Nat) : roundDiv (q * d) d = q := by
  have pos : 0 < d := Nat.pos_of_ne_zero h
  simp [roundDiv, Nat.mul_div_cancel q pos, pos]

/-- A significand with the power of two that its last place has, as the format writes them. -/
structure Format.Writes (f : Format) (significand : Nat) (scale : Int) : Prop where
  pos : significand ≠ 0
  small : significand < 2 ^ (f.fraction + 1)
  least : f.minScale ≤ scale
  full : scale = f.minScale ∨ 2 ^ f.fraction ≤ significand

/-- The word of a quotient that has one. -/
theorem Format.nearest_of_exact {f : Format} {num den significand : Nat} {scale : Int}
    (hd : den ≠ 0) (writes : f.Writes significand scale)
    (value : (num : ℚ) = significand * 2 ^ scale * den) :
    f.nearest num den =
      min f.infinity ((scale - f.minScale).toNat * 2 ^ f.fraction + significand) := by
  obtain ⟨pos, small, least, full⟩ := writes
  have dpos : (0 : ℚ) < den := by positivity
  have hn : num ≠ 0 := by
    rintro rfl
    have := mul_pos (mul_pos (Nat.cast_pos.2 (Nat.pos_of_ne_zero pos) : (0 : ℚ) < significand)
      (two_zpow_pos scale)) dpos
    rw [Nat.cast_zero] at value
    linarith
  have log : floorLog2 num den = significand.log2 + scale := by
    obtain ⟨low, high⟩ := two_zpow_log2 pos
    refine floorLog2_unique hd ?_ ?_
    · rw [value, two_zpow_add]
      have := mul_le_mul_of_nonneg_right low (two_zpow_pos scale).le
      exact mul_le_mul_of_nonneg_right this dpos.le
    · rw [value, show (significand.log2 + scale + 1 : Int) = significand.log2 + 1 + scale by omega,
        two_zpow_add]
      have := mul_lt_mul_of_pos_right high (two_zpow_pos scale)
      exact mul_lt_mul_of_pos_right this dpos
  have place : max f.minScale (floorLog2 num den - f.fraction) = scale := by
    have upper : significand.log2 ≤ f.fraction := by
      have := (Nat.log2_lt pos).2 small
      omega
    rcases full with same | normal
    · omega
    · have lower : f.fraction ≤ significand.log2 := (Nat.le_log2 pos).2 normal
      omega
  have rounded : (if 0 ≤ scale then roundDiv num (den * 2 ^ scale.toNat)
      else roundDiv (num * 2 ^ (-scale).toNat) den) = significand := by
    split
    · next nonneg =>
      rw [two_zpow_of_nonneg nonneg] at value
      have same : num = significand * (den * 2 ^ scale.toNat) := by
        have : num = significand * 2 ^ scale.toNat * den := by exact_mod_cast value
        rw [this, Nat.mul_assoc, Nat.mul_comm (2 ^ scale.toNat)]
      rw [same, roundDiv_mul]
      positivity
    · next negative =>
      have cancel := two_zpow_of_nonpos (k := scale) (by omega)
      have same : num * 2 ^ (-scale).toNat = significand * den := by
        have : (num : ℚ) * (2 ^ (-scale).toNat : Nat) = significand * den := by
          rw [value, mul_right_comm, mul_assoc (significand : ℚ), cancel, mul_one]
        exact_mod_cast this
      rw [same, roundDiv_mul hd]
  simp only [nearest, if_neg hn, place, rounded]

namespace Binary

variable {f : Format}

/-! ## Words in parts -/

theorem width_eq (f : Format) : 2 ^ f.width = 2 * 2 ^ (f.exponent + f.fraction) := by
  rw [Format.width, Nat.add_assoc, Nat.pow_add, Nat.pow_one]

/-- The sign bit says whether the word is in the upper half. -/
theorem negative_eq (x : Binary f) :
    x.negative = decide (2 ^ (f.exponent + f.fraction) ≤ x.word.toNat) := by
  have half : f.width - 1 = f.exponent + f.fraction := by
    simp only [Format.width]
    omega
  rw [negative, BitVec.msb_eq_decide, half]

theorem magnitude_lt (x : Binary f) : x.magnitude < 2 ^ (f.exponent + f.fraction) :=
  Nat.mod_lt _ (by positivity)

section

variable {m : Nat} (h : m < 2 ^ (f.exponent + f.fraction)) (b : Bool)
include h

theorem toNat_word_ofMagnitude :
    (ofMagnitude b m : Binary f).word.toNat =
      m + if b then 2 ^ (f.exponent + f.fraction) else 0 := by
  rw [ofMagnitude, BitVec.toNat_ofNat, Nat.mod_eq_of_lt]
  rw [width_eq]
  split <;> omega

theorem magnitude_ofMagnitude : (ofMagnitude b m : Binary f).magnitude = m := by
  rw [magnitude, toNat_word_ofMagnitude h]
  split
  · rw [Nat.add_mod_right, Nat.mod_eq_of_lt h]
  · rw [Nat.add_zero, Nat.mod_eq_of_lt h]

theorem negative_ofMagnitude : (ofMagnitude b m : Binary f).negative = b := by
  rw [negative_eq, toNat_word_ofMagnitude h]
  cases b <;> simp [h]

end

/-- A number is its sign and its word without sign. -/
theorem ofMagnitude_magnitude (x : Binary f) : ofMagnitude x.negative x.magnitude = x := by
  obtain ⟨word⟩ := x
  have bound := word.isLt
  rw [width_eq] at bound
  refine congrArg mk (BitVec.eq_of_toNat_eq ?_)
  have parts := toNat_word_ofMagnitude (magnitude_lt ⟨word⟩) (negative ⟨word⟩)
  refine parts.trans ?_
  rw [negative_eq, magnitude]
  dsimp only
  by_cases high : 2 ^ (f.exponent + f.fraction) ≤ word.toNat
  · rw [if_pos (by simpa using high), Nat.mod_eq_sub_mod high, Nat.mod_eq_of_lt (by omega)]
    omega
  · rw [if_neg (by simpa using high), Nat.mod_eq_of_lt (by omega), Nat.add_zero]

theorem eq_of_magnitude {x y : Binary f} (sign : x.negative = y.negative)
    (same : x.magnitude = y.magnitude) : x = y := by
  rw [← ofMagnitude_magnitude x, ← ofMagnitude_magnitude y, sign, same]

theorem infinity_lt (f : Format) : f.infinity < 2 ^ (f.exponent + f.fraction) := by
  have pos : 0 < 2 ^ f.exponent := by positivity
  rw [Format.infinity, Nat.pow_add]
  exact Nat.mul_lt_mul_of_pos_right (by omega) (by positivity)

/-- The word without sign counts the places that are in steps of the significand. -/
theorem writes_of_magnitude {x : Binary f} (nonzero : x.magnitude ≠ 0) :
    f.Writes x.significand x.scale ∧
      (x.scale - f.minScale).toNat * 2 ^ f.fraction + x.significand = x.magnitude := by
  have pos : 0 < 2 ^ f.fraction := by positivity
  have parts := Nat.div_add_mod x.magnitude (2 ^ f.fraction)
  have rest := Nat.mod_lt x.magnitude pos
  obtain ⟨biased, hb⟩ : ∃ biased, biased = x.magnitude / 2 ^ f.fraction := ⟨_, rfl⟩
  have place : x.scale = f.minScale + (biased - 1 : Nat) := by rw [scale, hb]
  rw [← hb] at parts
  by_cases least : biased = 0
  · have sig : x.significand = x.magnitude % 2 ^ f.fraction := by
      simp only [significand, ← hb, if_pos least]
    subst least
    rw [Nat.mul_zero, Nat.zero_add] at parts
    refine ⟨⟨by omega, ?_, by omega, .inl (by omega)⟩, ?_⟩
    · rw [sig, Nat.pow_succ]
      omega
    · rw [sig, place]
      simpa using parts
  · have sig : x.significand = 2 ^ f.fraction + x.magnitude % 2 ^ f.fraction := by
      simp only [significand, ← hb, if_neg least]
    obtain ⟨n, rfl⟩ := Nat.exists_eq_succ_of_ne_zero least
    refine ⟨⟨by omega, ?_, by omega, .inr (by omega)⟩, ?_⟩
    · rw [sig, Nat.pow_succ]
      omega
    · have steps : (x.scale - f.minScale).toNat = n := by omega
      rw [Nat.mul_succ, Nat.mul_comm] at parts
      rw [steps, sig]
      omega

/-- A word that is put together from a significand and its place has these for its parts. -/
theorem parts_of_writes {x : Binary f} {sig : Nat} {sc : Int} (writes : f.Writes sig sc)
    (same : x.magnitude = (sc - f.minScale).toNat * 2 ^ f.fraction + sig) :
    x.significand = sig ∧ x.scale = sc := by
  obtain ⟨pos, small, least, full⟩ := writes
  have unit : 0 < 2 ^ f.fraction := by positivity
  rw [Nat.pow_succ] at small
  obtain ⟨n, hn⟩ : ∃ n : Nat, n = (sc - f.minScale).toNat := ⟨_, rfl⟩
  rw [← hn] at same
  by_cases normal : 2 ^ f.fraction ≤ sig
  · have split : x.magnitude = sig - 2 ^ f.fraction + (n + 1) * 2 ^ f.fraction := by
      rw [same, Nat.add_mul]
      omega
    have quotient : x.magnitude / 2 ^ f.fraction = n + 1 := by
      rw [split, Nat.add_mul_div_right _ _ unit, Nat.div_eq_of_lt (by omega), Nat.zero_add]
    have rest : x.magnitude % 2 ^ f.fraction = sig - 2 ^ f.fraction := by
      rw [split, Nat.add_mul_mod_self_right, Nat.mod_eq_of_lt (by omega)]
    constructor
    · simp only [significand, quotient, rest]
      rw [if_neg (by omega)]
      omega
    · rw [scale, quotient]
      omega
  · have first : sc = f.minScale := full.resolve_right normal
    have none : n = 0 := by omega
    rw [none, Nat.zero_mul, Nat.zero_add] at same
    have quotient : x.magnitude / 2 ^ f.fraction = 0 := Nat.div_eq_of_lt (by omega)
    have rest : x.magnitude % 2 ^ f.fraction = sig := by
      rw [same, Nat.mod_eq_of_lt (by omega)]
    constructor
    · simp only [significand, quotient, rest, if_true]
    · rw [scale, quotient, first]
      omega

/-! ## Values -/

theorem toRat_eq (x : Binary f) :
    x.toRat = if x.negative then -((x.significand : ℚ) * 2 ^ x.scale)
      else (x.significand : ℚ) * 2 ^ x.scale := by
  have size : (if 0 ≤ x.scale then ((x.significand * 2 ^ x.scale.toNat : Nat) : Rat)
      else mkRat x.significand (2 ^ (-x.scale).toNat)) = (x.significand : ℚ) * 2 ^ x.scale := by
    split
    · next nonneg =>
      rw [two_zpow_of_nonneg nonneg]
      exact_mod_cast rfl
    · next negative =>
      have cancel := two_zpow_of_nonpos (k := x.scale) (by omega)
      have pos : (0 : ℚ) < (2 ^ (-x.scale).toNat : Nat) := by positivity
      rw [Rat.mkRat_eq_div, div_eq_iff pos.ne', mul_assoc, cancel, mul_one]
      exact_mod_cast rfl
  unfold toRat
  simp only [size]

theorem natAbs_toRat (x : Binary f) :
    (x.toRat.num.natAbs : ℚ) = x.significand * 2 ^ x.scale * x.toRat.den := by
  have size : (0 : ℚ) ≤ x.significand * 2 ^ x.scale := by positivity
  have abs_ : |x.toRat| = x.significand * 2 ^ x.scale := by
    rw [toRat_eq]
    split
    · rw [abs_neg, abs_of_nonneg size]
    · exact abs_of_nonneg size
  rw [← abs_, ← Nat.abs_cast x.toRat.den, ← abs_mul, Rat.mul_den_eq_num, Nat.cast_natAbs,
    Int.cast_abs]

/-- A finite number is nearest to its own value. -/
theorem nearest_toRat {x : Binary f} (finite : x.isFinite = true) :
    f.nearest x.toRat.num.natAbs x.toRat.den = x.magnitude := by
  have below : x.magnitude < f.infinity := by simpa [isFinite] using finite
  by_cases zero : x.magnitude = 0
  · have none : x.significand = 0 := by simp [significand, zero]
    have nothing : x.toRat.num.natAbs = 0 := by
      have := natAbs_toRat x
      rw [none, Nat.cast_zero, zero_mul, zero_mul] at this
      exact_mod_cast this
    rw [nothing, zero]
    rfl
  · obtain ⟨writes, whole⟩ := writes_of_magnitude zero
    rw [Format.nearest_of_exact x.toRat.den_ne_zero writes (natAbs_toRat x), whole]
    exact Nat.min_eq_right below.le

/-! ## Conversions -/

theorem isNaN_eq_false {x : Binary f} (finite : x.isFinite = true) : x.isNaN = false := by
  simp only [isFinite, isNaN, decide_eq_true_eq, decide_eq_false_iff_not] at finite ⊢
  omega

theorem toRat_ofMagnitude_zero (b : Bool) : (ofMagnitude b 0 : Binary f).toRat = 0 := by
  have none : (ofMagnitude b 0 : Binary f).significand = 0 := by
    simp [significand, magnitude_ofMagnitude]
  rw [toRat_eq, none, Nat.cast_zero, zero_mul, neg_zero, ite_self]

/-- A format in which the significands of another one can be filled up with zeros on the right. -/
theorem convert_of_writes {g : Format} {x : Binary f} (finite : x.isFinite = true) {k : Nat}
    (writes : g.Writes (x.significand * 2 ^ k) (x.scale - k))
    (small : (x.scale - k - g.minScale).toNat * 2 ^ g.fraction + x.significand * 2 ^ k
      < g.infinity) :
    (x.convert g).isFinite = true ∧ (x.convert g).negative = x.negative ∧
      (x.convert g).toRat = x.toRat := by
  obtain ⟨m, hm⟩ : ∃ m, m = (x.scale - k - g.minScale).toNat * 2 ^ g.fraction +
      x.significand * 2 ^ k := ⟨_, rfl⟩
  rw [← hm] at small
  have number := isNaN_eq_false finite
  have product : ((x.significand * 2 ^ k : Nat) : ℚ) * 2 ^ (x.scale - k) =
      x.significand * 2 ^ x.scale := by
    rw [Nat.cast_mul, mul_assoc, Nat.cast_pow, ← zpow_natCast, Nat.cast_two, ← two_zpow_add,
      add_sub_cancel]
  have value : (x.toRat.num.natAbs : ℚ) =
      (x.significand * 2 ^ k : Nat) * 2 ^ (x.scale - k) * x.toRat.den := by
    rw [product, natAbs_toRat]
  have word : x.convert g = ofMagnitude x.negative m := by
    rw [convert, number, finite, Format.nearest_of_exact x.toRat.den_ne_zero writes value, ← hm,
      Nat.min_eq_right small.le]
    simp
  have fits := small.trans (infinity_lt g)
  have same := magnitude_ofMagnitude fits x.negative
  have sign := negative_ofMagnitude fits x.negative
  obtain ⟨sig, place⟩ := parts_of_writes writes (same.trans hm)
  rw [word]
  refine ⟨by simpa [isFinite, same] using small, sign, ?_⟩
  rw [toRat_eq, toRat_eq, sig, place, sign, product]

theorem single_fraction : Format.single.fraction = 23 := rfl

theorem double_fraction : Format.double.fraction = 52 := rfl

theorem single_minScale : Format.single.minScale = -149 := by decide

theorem double_minScale : Format.double.minScale = -1074 := by decide

theorem single_infinity : Format.single.infinity = 255 * 2 ^ 23 := by decide

theorem double_infinity : Format.double.infinity = 2047 * 2 ^ 52 := by decide

/-- Every finite number of the narrow format is one of the wide format. -/
theorem convert_double {x : Single} (finite : x.isFinite = true) :
    (x.convert .double).isFinite = true ∧ (x.convert .double).negative = x.negative ∧
      (x.convert .double).toRat = x.toRat := by
  by_cases zero : x.magnitude = 0
  · have nothing : x.toRat = 0 := by
      rw [← ofMagnitude_magnitude x, zero, toRat_ofMagnitude_zero]
    have word : x.convert .double = ofMagnitude x.negative 0 := by
      rw [convert, finite, nothing]
      simp [isNaN, zero, Format.nearest]
    have fits : 0 < 2 ^ (Format.double.exponent + Format.double.fraction) := by positivity
    rw [word, nothing, toRat_ofMagnitude_zero]
    exact ⟨by simp [isFinite, magnitude_ofMagnitude fits]; decide, negative_ofMagnitude fits _, rfl⟩
  · obtain ⟨⟨pos, below, least, -⟩, whole⟩ := writes_of_magnitude zero
    have low := Nat.log2_self_le pos
    have high : x.significand < 2 ^ (x.significand.log2 + 1) := Nat.lt_log2_self
    have bits : x.significand.log2 < 24 := (Nat.log2_lt pos).2 below
    obtain ⟨k, hk⟩ : ∃ k, k = 52 - x.significand.log2 := ⟨_, rfl⟩
    have bottom : 2 ^ 52 ≤ x.significand * 2 ^ k := by
      calc 2 ^ 52 = 2 ^ x.significand.log2 * 2 ^ k := by rw [← Nat.pow_add]; congr 1; omega
        _ ≤ x.significand * 2 ^ k := Nat.mul_le_mul_right _ low
    have top : x.significand * 2 ^ k < 2 ^ 53 := by
      calc x.significand * 2 ^ k < 2 ^ (x.significand.log2 + 1) * 2 ^ k :=
            Nat.mul_lt_mul_of_pos_right high (by positivity)
        _ = 2 ^ 53 := by rw [← Nat.pow_add]; congr 1; omega
    have range : x.magnitude < Format.single.infinity := by simpa [isFinite] using finite
    rw [single_minScale] at least whole
    rw [single_infinity] at range
    rw [single_fraction] at whole
    have writes : Format.double.Writes (x.significand * 2 ^ k) (x.scale - k) :=
      ⟨by omega, top, by rw [double_minScale]; omega, .inr bottom⟩
    refine convert_of_writes finite writes ?_
    rw [double_minScale, double_infinity, double_fraction]
    omega

/-- Every number of the narrow format comes back from the wide one, apart from the words that stand
for what is not a number. -/
theorem convert_single_convert_double {x : Single} (number : x.isNaN = false) :
    (x.convert .double).convert .single = x := by
  by_cases finite : x.isFinite = true
  · obtain ⟨finite', sign, value⟩ := convert_double finite
    rw [convert.eq_def .single, isNaN_eq_false finite', finite', sign, value,
      nearest_toRat finite]
    simpa using ofMagnitude_magnitude x
  · have infinite : x.magnitude = Format.single.infinity := by
      simp only [isFinite, isNaN, decide_eq_true_eq, decide_eq_false_iff_not] at finite number
      omega
    have wide : x.convert .double = ofMagnitude x.negative Format.double.infinity := by
      simp [convert, number, finite]
    have fits := infinity_lt .double
    rw [wide, convert, negative_ofMagnitude fits]
    simp [isNaN, isFinite, magnitude_ofMagnitude fits, ← infinite, ofMagnitude_magnitude]

theorem payload_lt (g : Format) (x : Binary f) : payload g x < 2 ^ (g.fraction - 1) :=
  Nat.mod_lt _ (by positivity)

/-- What is not a number stays none. -/
theorem convert_of_isNaN {g : Format} (pos : 0 < g.fraction) {x : Binary f}
    (none : x.isNaN = true) :
    (x.convert g).isNaN = true ∧ (x.convert g).negative = x.negative ∧
      (x.convert g).magnitude = g.infinity + 2 ^ (g.fraction - 1) + payload g x := by
  have below := payload_lt g x
  have half : 2 ^ g.fraction = 2 ^ (g.fraction - 1) + 2 ^ (g.fraction - 1) := by
    rw [← Nat.two_mul, ← Nat.pow_succ']
    congr 1
    omega
  have unit : 0 < 2 ^ (g.fraction - 1) := by positivity
  have top : g.infinity + 2 ^ g.fraction = 2 ^ (g.exponent + g.fraction) := by
    have exponents : 0 < 2 ^ g.exponent := by positivity
    rw [Format.infinity, ← Nat.succ_mul, Nat.succ_eq_add_one, Nat.sub_add_cancel exponents,
      Nat.pow_add]
  have fits : g.infinity + 2 ^ (g.fraction - 1) + payload g x < 2 ^ (g.exponent + g.fraction) := by
    omega
  have word : x.convert g =
      ofMagnitude x.negative (g.infinity + 2 ^ (g.fraction - 1) + payload g x) := by
    rw [convert, none, if_pos rfl]
  rw [word, isNaN, magnitude_ofMagnitude fits, negative_ofMagnitude fits]
  exact ⟨decide_eq_true (by omega), rfl, rfl⟩

/-- Both formats have the same words for a number of the narrow one, also for what is not a
number: the first conversion makes it a quiet one, and the payload fits both. -/
theorem convert_double_convert_single_convert_double (x : Single) :
    ((x.convert .double).convert .single).convert .double = x.convert .double := by
  by_cases number : x.isNaN = false
  · rw [convert_single_convert_double number]
  · obtain ⟨none₁, sign₁, word₁⟩ :=
      convert_of_isNaN (g := .double) (by decide) (Bool.not_eq_false _ ▸ number)
    obtain ⟨none₂, sign₂, word₂⟩ := convert_of_isNaN (g := .single) (by decide) none₁
    obtain ⟨none₃, sign₃, word₃⟩ := convert_of_isNaN (g := .double) (by decide) none₂
    have p₁ := payload_lt .double x
    have same : payload .double ((x.convert .double).convert .single) = payload .double x := by
      rw [payload, word₂, payload, word₁]
      simp only [payload, double_infinity, single_infinity, double_fraction,
        single_fraction] at p₁ ⊢
      omega
    refine eq_of_magnitude (sign₃.trans sign₂) ?_
    rw [word₃, same, word₁]

end Binary

end DataMapper.Number
