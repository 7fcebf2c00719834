import DataMapper.Keyed
import DataMapper.Text.Pairs

/-!
# Texts in several languages

A localized text is a handle to an instance in a store, so that a change through one handle is seen
through every handle to the same instance.

## Main definitions

* `TextStore` — the instances, each with its text for every locale.
* `LocalizedString` — a handle.
-/

namespace DataMapper

open Text

/-- The text for each locale. -/
abbrev Translations := KeyMap String

/-- A map of texts that a list of pairs is the written form of. -/
def decodeMap (encoded : String) : Except PairsError (KeyMap String) :=
  (decodePairs encoded).map KeyMap.ofList

def encodeMap (m : KeyMap String) : String := encodePairs m.entries

structure LocalizedString where
  index : Nat
  deriving DecidableEq

/-- All instances of localized texts, in the order in which they came to be. -/
structure TextStore where
  instances : List Translations
  deriving Inhabited

namespace TextStore

def empty : TextStore := ⟨[]⟩

def read (st : TextStore) (h : LocalizedString) : Translations :=
  (st.instances[h.index]?).getD KeyMap.empty

def write (st : TextStore) (h : LocalizedString) (m : Translations) : TextStore :=
  ⟨st.instances.set h.index m⟩

/-- A handle to a new instance. -/
def allocate (st : TextStore) (m : Translations) : LocalizedString × TextStore :=
  (⟨st.instances.length⟩, ⟨st.instances ++ [m]⟩)

/-- Does the handle lead to an instance? -/
def Valid (st : TextStore) (h : LocalizedString) : Prop :=
  h.index < st.instances.length

@[simp] theorem read_allocate (st : TextStore) (m : Translations) :
    (st.allocate m).2.read (st.allocate m).1 = m := by
  simp [allocate, read]

theorem read_write_self {st : TextStore} {h : LocalizedString} (valid : st.Valid h)
    (m : Translations) : (st.write h m).read h = m := by
  simp [read, write, List.getElem?_set_self valid]

theorem read_write_ne (st : TextStore) {h k : LocalizedString} (ne : h ≠ k) (m : Translations) :
    (st.write h m).read k = st.read k := by
  have : h.index ≠ k.index := fun eq => ne (by cases h; cases k; simp_all)
  simp [read, write, List.getElem?_set_ne this]

end TextStore

namespace LocalizedString

variable (h : LocalizedString) (st : TextStore)

def get? (locale : String) : Option String := (st.read h).find? locale

def set (locale text : String) : TextStore := st.write h ((st.read h).insert locale text)

def remove (locale : String) : TextStore := st.write h ((st.read h).erase locale)

def encode : String := encodeMap (st.read h)

/-- The content replaced by what a text decodes to; the instance stays the same. -/
def decodeInto (encoded : String) : Except PairsError TextStore :=
  (decodeMap encoded).map (st.write h)

/-- Two handles are equal when they share an instance or their texts are the same. -/
def equal (k : LocalizedString) : Bool := h = k || st.read h = st.read k

end LocalizedString

end DataMapper
