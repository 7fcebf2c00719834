import DataMapper.Number.Binary

/-!
# Numbers as bytes

Whole numbers in a fixed number of bytes, the highest byte first; negative ones in two's complement.

## Main statements

* `ofBigEndian_bigEndian`, `ofSignedBigEndian_signedBigEndian` — a number that fits comes back from
  its bytes.
-/

namespace DataMapper.Number

/-- The last `length` bytes of a number. -/
def bigEndian : Nat → Nat → List UInt8
  | 0, _ => []
  | length + 1, n => bigEndian length (n / 256) ++ [UInt8.ofNat n]

def ofBigEndian (bytes : List UInt8) : Nat :=
  bytes.foldl (fun n b => n * 256 + b.toNat) 0

/-- A number modulo `256 ^ length` in that many bytes. -/
def signedBigEndian (length : Nat) (n : Int) : List UInt8 :=
  bigEndian length (n % (256 ^ length : Nat)).toNat

def ofSignedBigEndian (bytes : List UInt8) : Int :=
  let n := ofBigEndian bytes
  if 2 * n < 256 ^ bytes.length then n else n - (256 ^ bytes.length : Nat)

@[simp] theorem length_bigEndian (length n : Nat) : (bigEndian length n).length = length := by
  induction length generalizing n with
  | zero => rfl
  | succ length ih => simp [bigEndian, ih]

theorem ofBigEndian_append_singleton (bytes : List UInt8) (b : UInt8) :
    ofBigEndian (bytes ++ [b]) = ofBigEndian bytes * 256 + b.toNat := by
  simp [ofBigEndian]

theorem ofBigEndian_bigEndian {length n : Nat} (fits : n < 256 ^ length) :
    ofBigEndian (bigEndian length n) = n := by
  induction length generalizing n with
  | zero =>
    rw [Nat.pow_zero] at fits
    rw [bigEndian, ofBigEndian, List.foldl_nil]
    omega
  | succ length ih =>
    have : n / 256 < 256 ^ length := by
      rw [Nat.pow_succ] at fits
      omega
    rw [bigEndian, ofBigEndian_append_singleton, ih this, UInt8.toNat_ofNat']
    omega

theorem ofBigEndian_lt (bytes : List UInt8) : ofBigEndian bytes < 256 ^ bytes.length := by
  have grows (n : Nat) (bytes : List UInt8) :
      bytes.foldl (fun n b => n * 256 + b.toNat) n < (n + 1) * 256 ^ bytes.length := by
    induction bytes generalizing n with
    | nil => simp
    | cons b bytes ih =>
      have small : n * 256 + b.toNat + 1 ≤ (n + 1) * 256 := by
        have := b.toNat_lt
        omega
      calc (b :: bytes).foldl (fun n b => n * 256 + b.toNat) n
          < (n * 256 + b.toNat + 1) * 256 ^ bytes.length := ih _
        _ ≤ (n + 1) * 256 * 256 ^ bytes.length := Nat.mul_le_mul_right _ small
        _ = (n + 1) * 256 ^ (b :: bytes).length := by
          rw [List.length_cons, Nat.pow_succ']
          ac_rfl
  simpa [ofBigEndian] using grows 0 bytes

theorem ofSignedBigEndian_signedBigEndian {length : Nat} {n : Int}
    (low : -(256 ^ length : Nat) ≤ 2 * n) (high : 2 * n < (256 ^ length : Nat)) :
    ofSignedBigEndian (signedBigEndian length n) = n := by
  have pos : 0 < 256 ^ length := Nat.pow_pos (by decide)
  unfold ofSignedBigEndian signedBigEndian
  generalize full : 256 ^ length = m at low high pos ⊢
  have word : n % (m : Int) = if 0 ≤ n then n else n + m := by
    split
    · exact Int.emod_eq_of_lt ‹_› (by omega)
    · rw [← Int.add_emod_right, Int.emod_eq_of_lt] <;> omega
  have fits : (n % (m : Int)).toNat < 256 ^ length := by
    rw [full, word]
    split <;> omega
  have back : ofBigEndian (bigEndian length (n % (m : Int)).toNat) = (n % (m : Int)).toNat :=
    ofBigEndian_bigEndian fits
  simp only [back, length_bigEndian, full]
  rw [word]
  split <;> split <;> omega

theorem ofSignedBigEndian_bounds (bytes : List UInt8) :
    -(256 ^ bytes.length : Nat) ≤ 2 * ofSignedBigEndian bytes ∧
      2 * ofSignedBigEndian bytes < (256 ^ bytes.length : Nat) := by
  have below := ofBigEndian_lt bytes
  unfold ofSignedBigEndian
  dsimp only
  split <;> omega

end DataMapper.Number
