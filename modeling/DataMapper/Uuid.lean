import DataMapper.Text.Utf8

/-!
# Universally unique identifiers

Sixteen bytes, written as hexadecimal digits in groups of 8, 4, 4, 4 and 12.
-/

namespace DataMapper

structure Uuid where
  bytes : List UInt8
  length_eq : bytes.length = 16
  deriving DecidableEq

namespace Uuid

open Text

def nil : Uuid := ⟨List.replicate 16 0, by decide⟩

instance : Inhabited Uuid := ⟨nil⟩

def ofBytes? (bytes : List UInt8) : Option Uuid :=
  if h : bytes.length = 16 then some ⟨bytes, h⟩ else none

def text (u : Uuid) : String :=
  let part (start length : Nat) : String := hexOfBytes ((u.bytes.drop start).take length)
  String.intercalate "-" [part 0 4, part 4 2, part 6 2, part 8 2, part 10 6]

/-- The identifier with 32 hexadecimal digits. -/
def ofHex? (cs : List Char) : Option Uuid :=
  (bytesOfHex? cs).bind ofBytes?

/-- The identifier in groups with hyphens between them. -/
def ofGroups? (cs : List Char) : Option Uuid :=
  let hyphen (i : Nat) : Bool := cs[i]? == some '-'
  let group (start length : Nat) : List Char := (cs.drop start).take length
  if cs.length = 36 ∧ hyphen 8 ∧ hyphen 13 ∧ hyphen 18 ∧ hyphen 23 then
    ofHex? (group 0 8 ++ group 9 4 ++ group 14 4 ++ group 19 4 ++ group 24 12)
  else none

/-- The digits with or without hyphens; those with hyphens also in braces or after `urn:uuid:`. -/
def read (cs : List Char) : Option Uuid :=
  if cs.length = 32 then ofHex? cs
  else if cs.length = 38 ∧ cs.head? = some '\x7b' ∧ cs.getLast? = some '\x7d' then
    ofGroups? (cs.tail.take 36)
  else if cs.take 9 = "urn:uuid:".toList then ofGroups? (cs.drop 9)
  else ofGroups? cs

end Uuid

end DataMapper
