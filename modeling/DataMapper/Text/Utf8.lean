/-!
# Text as bytes

UTF-8 bytes of a text, and cuts of a text by a number of bytes.
-/

namespace DataMapper.Text

def utf8 (s : String) : List UInt8 :=
  s.toUTF8.toList

/-- The text that the bytes encode, if they are valid UTF-8. -/
def ofUtf8? (bytes : List UInt8) : Option String :=
  String.fromUTF8? (ByteArray.mk bytes.toArray)

theorem byteArray_toList (bytes : ByteArray) : bytes.toList = bytes.data.toList := by
  have loop (i : Nat) (before : List UInt8) :
      ByteArray.toList.loop bytes i before = before.reverse ++ bytes.data.toList.drop i := by
    fun_induction ByteArray.toList.loop bytes i before with
    | case1 i before inside ih =>
      have here : i < bytes.data.toList.length := inside
      have byte : bytes.get! i = bytes.data.toList[i] := by
        show bytes.data[i]! = _
        rw [getElem!_pos bytes.data i (by simpa using here), Array.getElem_toList]
      rw [ih, List.drop_eq_getElem_cons here, byte]
      simp
    | case2 i before behind =>
      have none : bytes.data.toList.length ≤ i := Nat.not_lt.1 behind
      rw [List.drop_eq_nil_of_le none, List.append_nil]
  exact loop 0 []

theorem utf8_eq_toList (s : String) : utf8 s = s.toByteArray.data.toList := byteArray_toList _

theorem length_utf8 (s : String) : (utf8 s).length = s.utf8ByteSize := by
  rw [utf8_eq_toList]
  rfl

/-- A text comes back from its bytes. -/
theorem ofUtf8?_utf8 (s : String) : ofUtf8? (utf8 s) = some s := by
  have same : ByteArray.mk (utf8 s).toArray = s.toByteArray := by rw [utf8_eq_toList]
  rw [ofUtf8?, same]
  exact dif_pos s.isValidUTF8

/-- The number of bytes that a list of characters takes. -/
def byteLength : List Char → Nat
  | [] => 0
  | c :: cs => c.utf8Size + byteLength cs

@[simp] theorem byteLength_nil : byteLength [] = 0 := rfl

@[simp] theorem byteLength_cons (c : Char) (cs : List Char) :
    byteLength (c :: cs) = c.utf8Size + byteLength cs := rfl

@[simp] theorem byteLength_append (a b : List Char) :
    byteLength (a ++ b) = byteLength a + byteLength b := by
  induction a with
  | nil => simp
  | cons c cs ih => simp [ih, Nat.add_assoc]

theorem byteLength_toList (s : String) : byteLength s.toList = s.utf8ByteSize := by
  induction s using String.push_induction with
  | empty => rfl
  | push s c ih => simp [ih]

/-- The last place within a number of bytes at which a text can be cut, found by going back byte by
byte. No place is inside a character. -/
def lastCut (s : String) : Nat → s.Pos
  | 0 => s.startPos
  | i + 1 => if h : String.Pos.Raw.IsValid s ⟨i + 1⟩ then s.pos ⟨i + 1⟩ h else lastCut s i

/-- The front of a text that takes at most a number of bytes. -/
def takeBytes (limit : Nat) (s : String) : String :=
  if s.utf8ByteSize ≤ limit then s else (s.sliceTo (lastCut s limit)).copy

/-- Two lower-case hexadecimal digits for each byte. -/
def hexOfBytes (bytes : List UInt8) : String :=
  String.ofList (bytes.flatMap fun b => [Nat.digitChar (b.toNat / 16), Nat.digitChar (b.toNat % 16)])

/-- The value of a hexadecimal digit of either case. -/
def hexValue? (c : Char) : Option Nat :=
  if c.isDigit then some (c.toNat - '0'.toNat)
  else if 'a' ≤ c ∧ c ≤ 'f' then some (c.toNat - 'a'.toNat + 10)
  else if 'A' ≤ c ∧ c ≤ 'F' then some (c.toNat - 'A'.toNat + 10)
  else none

/-- The bytes that pairs of hexadecimal digits stand for. -/
def bytesOfHex? : List Char → Option (List UInt8)
  | [] => some []
  | [_] => none
  | a :: b :: cs => do
    let hi ← hexValue? a
    let lo ← hexValue? b
    let rest ← bytesOfHex? cs
    return UInt8.ofNat (hi * 16 + lo) :: rest

end DataMapper.Text
