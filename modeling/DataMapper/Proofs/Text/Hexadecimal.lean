import DataMapper.Uuid

/-!
# Hexadecimal digits that are read back

Bytes come back from their hexadecimal digits, two for each, and an identifier from its groups of
digits with hyphens between them.

## Main statements

* `Text.bytesOfHex?_hexOfBytes` — bytes come back from their digits.
* `Uuid.read_text` — an identifier comes back from its text.
-/

namespace DataMapper

namespace Text

theorem hexValue?_digitChar {n : Nat} (small : n < 16) : hexValue? n.digitChar = some n := by
  revert n; decide

/-- The two digits of a byte are its quotient and its remainder. -/
theorem bytesOfHex?_hexOfBytes (bytes : List UInt8) :
    bytesOfHex? (hexOfBytes bytes).toList = some bytes := by
  rw [hexOfBytes, String.toList_ofList]
  induction bytes with
  | nil => rfl
  | cons b bytes ih =>
    have word := b.toNat_lt
    have halves : b.toNat / 16 * 16 + b.toNat % 16 = b.toNat := Nat.div_add_mod' ..
    simp only [List.flatMap_cons, List.cons_append, List.nil_append, bytesOfHex?,
      hexValue?_digitChar (show b.toNat / 16 < 16 by omega),
      hexValue?_digitChar (show b.toNat % 16 < 16 by omega), ih, bind, Option.bind, halves,
      UInt8.ofNat_toNat]
    rfl

theorem length_hexOfBytes (bytes : List UInt8) :
    (hexOfBytes bytes).toList.length = 2 * bytes.length := by
  simp [hexOfBytes, List.length_flatMap, List.map_const', Nat.mul_comm]

theorem toList_hexOfBytes_append (as bs : List UInt8) :
    (hexOfBytes (as ++ bs)).toList = (hexOfBytes as).toList ++ (hexOfBytes bs).toList := by
  simp [hexOfBytes]

end Text

namespace Uuid

open Text

/-- The digits of the bytes from a place on. -/
def digits (u : Uuid) (start length : Nat) : List Char :=
  (hexOfBytes ((u.bytes.drop start).take length)).toList

theorem length_digits (u : Uuid) {start length : Nat} (inside : start + length ≤ 16) :
    (u.digits start length).length = 2 * length := by
  rw [digits, length_hexOfBytes, List.length_take, List.length_drop, u.length_eq]
  omega

theorem digits_append (u : Uuid) (start a b : Nat) :
    u.digits start a ++ u.digits (start + a) b = u.digits start (a + b) := by
  rw [digits, digits, digits, ← toList_hexOfBytes_append, List.take_add, List.drop_drop]

theorem digits_all (u : Uuid) : u.digits 0 16 = (hexOfBytes u.bytes).toList := by
  rw [digits, List.drop_zero, List.take_of_length_le (Nat.le_of_eq u.length_eq)]

theorem toList_text (u : Uuid) :
    u.text.toList = u.digits 0 4 ++ '-' :: (u.digits 4 2 ++ '-' :: (u.digits 6 2 ++ '-' ::
      (u.digits 8 2 ++ '-' :: u.digits 10 6))) := by
  simp [text, digits]

theorem ofGroups?_join {a b c d e : List Char} (ha : a.length = 8) (hb : b.length = 4)
    (hc : c.length = 4) (hd : d.length = 4) (he : e.length = 12) :
    ofGroups? (a ++ '-' :: (b ++ '-' :: (c ++ '-' :: (d ++ '-' :: e)))) =
      ofHex? (a ++ b ++ c ++ d ++ e) := by
  simp [ofGroups?, ha, hb, hc, hd, he, List.drop_append, List.drop_eq_nil_of_le,
    List.take_of_length_le]

theorem ofGroups?_text (u : Uuid) : ofGroups? u.text.toList = some u := by
  have whole : u.digits 0 4 ++ u.digits 4 2 ++ u.digits 6 2 ++ u.digits 8 2 ++ u.digits 10 6 =
      (hexOfBytes u.bytes).toList :=
    calc u.digits 0 4 ++ u.digits 4 2 ++ u.digits 6 2 ++ u.digits 8 2 ++ u.digits 10 6
      _ = u.digits 0 6 ++ u.digits 6 2 ++ u.digits 8 2 ++ u.digits 10 6 := by
        rw [u.digits_append 0 4 2]
      _ = u.digits 0 8 ++ u.digits 8 2 ++ u.digits 10 6 := by rw [u.digits_append 0 6 2]
      _ = u.digits 0 10 ++ u.digits 10 6 := by rw [u.digits_append 0 8 2]
      _ = u.digits 0 16 := u.digits_append 0 10 6
      _ = (hexOfBytes u.bytes).toList := u.digits_all
  rw [toList_text, ofGroups?_join (u.length_digits (by decide)) (u.length_digits (by decide))
    (u.length_digits (by decide)) (u.length_digits (by decide)) (u.length_digits (by decide)),
    whole, ofHex?, bytesOfHex?_hexOfBytes]
  exact dif_pos u.length_eq

/-- An identifier is read back from its text. -/
theorem read_text (u : Uuid) : read u.text.toList = some u := by
  have long : u.text.toList.length = 36 := by
    simp only [toList_text, List.length_append, List.length_cons,
      u.length_digits (show 0 + 4 ≤ 16 by decide), u.length_digits (show 4 + 2 ≤ 16 by decide),
      u.length_digits (show 6 + 2 ≤ 16 by decide), u.length_digits (show 8 + 2 ≤ 16 by decide),
      u.length_digits (show 10 + 6 ≤ 16 by decide)]
  -- where the name of the scheme would end there is a hyphen
  have bare : u.text.toList.take 9 ≠ "urn:uuid:".toList := by
    intro named
    have hyphen := congrArg List.getLast? named
    rw [toList_text, List.take_append, u.length_digits (by decide)] at hyphen
    simp at hyphen
  rw [read, if_neg (by omega), if_neg (by omega), if_neg bare, ofGroups?_text]

end Uuid

end DataMapper
