import DataMapper.Number.Decimal
import DataMapper.Text.Blank

/-!
# Written digits

The digits of a number are digits and no blanks, and they stand for the number, also where zeros
fill them up to a length.
-/

namespace DataMapper

namespace Number

theorem isDigit_of_mem_toDigits {c : Char} {n : Nat} (h : c ∈ Nat.toDigits 10 n) :
    c.isDigit = true :=
  Nat.isDigit_of_mem_toDigits (by decide) (by decide) h

theorem takeWhile_isDigit {ds rest : List Char} (digits : ∀ c ∈ ds, c.isDigit = true)
    (ends : ∀ c ∈ rest.head?, c.isDigit = false) : (ds ++ rest).takeWhile Char.isDigit = ds := by
  rw [List.takeWhile_append_of_pos digits]
  cases rest with
  | nil => simp
  | cons c rest => simp [ends c rfl]

theorem digitsValue_eq_ofDigitChars (value : Nat) (ds : List Char) :
    digitsValue value ds = Nat.ofDigitChars 10 ds value := by
  simp only [digitsValue, Nat.ofDigitChars, Nat.mul_comm 10]

theorem digitsValue_toDigits (n : Nat) : digitsValue 0 (Nat.toDigits 10 n) = n := by
  rw [digitsValue_eq_ofDigitChars, Nat.ofDigitChars_ten_toDigits]

/-- Zeros in front do not count. -/
theorem digitsValue_zeros (k : Nat) (ds : List Char) :
    digitsValue 0 (List.replicate k '0' ++ ds) = digitsValue 0 ds := by
  induction k with
  | zero => rfl
  | succ k ih =>
    rw [List.replicate_succ, List.cons_append]
    exact ih

theorem digitsValue_paddedDigits (length n : Nat) :
    digitsValue 0 (Decimal.paddedDigits length n) = n := by
  rw [Decimal.paddedDigits, digitsValue_zeros, digitsValue_toDigits]

theorem isDigit_of_mem_paddedDigits {length n : Nat} {c : Char}
    (h : c ∈ Decimal.paddedDigits length n) : c.isDigit = true := by
  rcases List.mem_append.1 h with zero | digit
  · rw [List.eq_of_mem_replicate zero]
    rfl
  · exact isDigit_of_mem_toDigits digit

theorem paddedDigits_ne_nil (length n : Nat) : Decimal.paddedDigits length n ≠ [] := by
  simp [Decimal.paddedDigits, Nat.toDigits_ne_nil]

theorem le_length_paddedDigits (length n : Nat) :
    length ≤ (Decimal.paddedDigits length n).length := by
  simp only [Decimal.paddedDigits, List.length_append, List.length_replicate]
  omega

theorem length_paddedDigits {length n : Nat} (some : 0 < length) (fits : n < 10 ^ length) :
    (Decimal.paddedDigits length n).length = length := by
  have := (Nat.length_toDigits_le_iff (by decide : 1 < 10) some).2 fits
  simp only [Decimal.paddedDigits, List.length_append, List.length_replicate]
  omega

end Number

namespace Text

theorem isBlank_of_isDigit {c : Char} (digit : c.isDigit = true) : isBlank c = false := by
  simp only [Char.isDigit, Bool.and_eq_true, decide_eq_true_eq, UInt32.le_iff_toNat_le] at digit
  have low : 48 ≤ c.toNat := digit.1
  have high : c.toNat ≤ 57 := digit.2
  simp only [isBlank]
  grind

end Text

end DataMapper
