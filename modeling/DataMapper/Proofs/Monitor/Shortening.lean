import DataMapper.Monitor.Report

/-!
# Messages cut to a number of bytes

Monitors keep a long message up to a number of bytes, and three dots. What they keep is as long as
it can be without a cut inside a character.

## Main definitions

* `IsLongestFront` — as much of a text as fits within a number of bytes.
-/

namespace DataMapper

namespace Text

/-- The text begins with the front, and of the bytes that it begins with no more are valid and within
the limit. -/
structure IsLongestFront (limit : Nat) (s front : String) : Prop where
  begins : ∃ rest, s = front ++ rest
  within : front.utf8ByteSize ≤ limit
  longest (bytes : List UInt8) : bytes <+: utf8 s → (ofUtf8? bytes).isSome → bytes.length ≤ limit →
    bytes.length ≤ front.utf8ByteSize

/-- A text can be cut behind valid bytes. -/
theorem isValid_of_isSome_ofUtf8? {s : String} {bytes : List UInt8} (front : bytes <+: utf8 s)
    (text : (ofUtf8? bytes).isSome) : String.Pos.Raw.IsValid s ⟨bytes.length⟩ := by
  rw [utf8_eq_toList] at front
  have valid : (ByteArray.mk bytes.toArray).IsValidUTF8 := by
    unfold ofUtf8? String.fromUTF8? at text
    split at text
    · assumption
    · cases text
  have same : s.toByteArray.extract 0 bytes.length = ByteArray.mk bytes.toArray := by
    ext1
    rw [ByteArray.data_extract, ← Array.toList_inj, Array.toList_extract]
    simpa using (List.prefix_iff_eq_take.1 front).symm
  exact String.Pos.Raw.isValid_iff_isValidUTF8_extract_zero.2 ⟨front.length_le, same ▸ valid⟩

/-- Going back byte by byte finds the last place that is not behind the limit. -/
theorem lastCut_eq_posLE (s : String) (limit : Nat) : lastCut s limit = s.posLE ⟨limit⟩ := by
  induction limit with
  | zero => exact (String.posLE_eq_pos String.Pos.Raw.isValid_zero).symm
  | succ i ih =>
    rw [lastCut]
    split
    · exact (String.posLE_eq_pos ‹_›).symm
    · -- no place is at the limit, so the last one before it is that before the byte in front
      rename_i inside
      have before (place : s.Pos) : place.offset ≤ ⟨i + 1⟩ ↔ place.offset ≤ ⟨i⟩ := by
        have other : place.offset.byteIdx ≠ i + 1 := fun same =>
          inside (String.Pos.Raw.ext same ▸ place.isValid)
        simp only [String.Pos.Raw.le_iff]
        omega
      rw [ih, eq_comm, String.posLE_eq_iff]
      simp only [before]
      exact String.posLE_eq_iff.1 rfl

/-- What is taken of a text is as much of it as fits. -/
theorem isLongestFront_takeBytes (limit : Nat) (s : String) :
    IsLongestFront limit s (takeBytes limit s) := by
  unfold takeBytes
  split
  · refine ⟨⟨"", by simp⟩, ‹_›, fun bytes front _ _ => ?_⟩
    rw [← length_utf8]
    exact front.length_le
  · have size : (s.sliceTo (lastCut s limit)).copy.utf8ByteSize =
        (s.posLE ⟨limit⟩).offset.byteIdx := by
      simp [lastCut_eq_posLE]
    refine ⟨⟨_, String.sliceTo_append_sliceFrom.symm⟩, ?_, fun bytes front text fits => ?_⟩
    · rw [size]
      exact String.offset_posLE_le
    · -- where the bytes end is a place within the limit, and so not behind the last one
      rw [size]
      have place := isValid_of_isSome_ofUtf8? front text
      exact String.le_posLE_iff (p := s.pos _ place).2 fits

end Text

namespace Outcome

open Text

/-- Whatever the limit, a text is cut to as much of it as fits, which is text again. Of the message
of a failure 512 bytes are kept in this way: a message within them as it is, and of any other what
fits, with three dots behind it. -/
theorem ofMessage_keeps (limit : Nat) (s : String) :
    IsLongestFront limit s (takeBytes limit s) ∧
      (s.utf8ByteSize ≤ 512 ∧ ofMessage s = failed s ∨
        512 < s.utf8ByteSize ∧ ∃ front, IsLongestFront 512 s front ∧
          ofMessage s = failed (front ++ "...") ∧ (front ++ "...").utf8ByteSize ≤ 515) := by
  refine ⟨isLongestFront_takeBytes limit s, ?_⟩
  by_cases short : s.utf8ByteSize ≤ 512
  · exact .inl ⟨short, by rw [ofMessage, shorten, maxMessageBytes, if_pos short]⟩
  · have kept := isLongestFront_takeBytes 512 s
    refine .inr ⟨Nat.lt_of_not_le short, _, kept, ?_, ?_⟩
    · rw [ofMessage, shorten, maxMessageBytes, if_neg short]
    · have dots : "...".utf8ByteSize = 3 := rfl
      rw [String.utf8ByteSize_append, dots]
      exact Nat.add_le_add_right kept.within 3

/-- The limit is inside the third character. -/
example : takeBytes 4 "aé€" = "aé" := by decide

end Outcome

end DataMapper
