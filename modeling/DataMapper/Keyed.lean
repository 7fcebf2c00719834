/-!
# Lists sorted by key

A finite map from texts is a list of entries in strictly ascending order of their keys, which is
the order of code points.

## Main definitions

* `insertKey`, `eraseKey`, `findKey?` — the operations on lists of entries.
* `KeyMap` — the sorted lists.
-/

namespace DataMapper

variable {α : Type}

/-- Put an entry in its place; an entry with the same key gives way. -/
def insertKey (k : String) (v : α) : List (String × α) → List (String × α)
  | [] => [(k, v)]
  | e :: es =>
    if k < e.1 then (k, v) :: e :: es
    else if k = e.1 then (k, v) :: es
    else e :: insertKey k v es

def eraseKey (k : String) (es : List (String × α)) : List (String × α) :=
  es.filter (·.1 ≠ k)

def findKey? (k : String) (es : List (String × α)) : Option α :=
  (es.find? (·.1 = k)).map (·.2)

/-- Are the keys strictly ascending? -/
def Ascending (es : List (String × α)) : Prop :=
  es.Pairwise (·.1 < ·.1)

theorem mem_insertKey {k : String} {v : α} {es : List (String × α)} {e : String × α}
    (h : e ∈ insertKey k v es) : e = (k, v) ∨ e ∈ es := by
  induction es with
  | nil => simpa [insertKey] using h
  | cons d es ih =>
    rw [insertKey] at h
    split at h
    · simpa using h
    · split at h
      · simp only [List.mem_cons] at h ⊢
        exact h.imp_right .inr
      · simp only [List.mem_cons] at h ⊢
        rcases h with rfl | h
        · exact .inr (.inl rfl)
        · exact (ih h).imp_right .inr

theorem ascending_insertKey {k : String} {v : α} {es : List (String × α)} (h : Ascending es) :
    Ascending (insertKey k v es) := by
  induction es with
  | nil => simp [insertKey, Ascending]
  | cons d es ih =>
    have ⟨hd, hes⟩ := List.pairwise_cons.mp h
    rw [insertKey]
    split
    · next lt =>
      refine List.pairwise_cons.mpr ⟨fun e he => ?_, h⟩
      rcases List.mem_cons.mp he with rfl | he
      · exact lt
      · exact String.lt_trans lt (hd e he)
    · next ge =>
      split
      · next eq =>
        subst eq
        exact List.pairwise_cons.mpr ⟨hd, hes⟩
      · next ne =>
        refine List.pairwise_cons.mpr ⟨fun e he => ?_, ih hes⟩
        rcases mem_insertKey he with rfl | he
        · exact Std.lt_of_le_of_ne (Std.not_lt.mp ge) (fun eq => ne eq.symm)
        · exact hd e he

/-- A finite map from texts. -/
structure KeyMap (α : Type) where
  entries : List (String × α)
  ascending : Ascending entries

namespace KeyMap

def empty : KeyMap α := ⟨[], List.Pairwise.nil⟩

instance : Inhabited (KeyMap α) := ⟨empty⟩

theorem ext {m n : KeyMap α} (h : m.entries = n.entries) : m = n := by
  cases m; cases n; simp_all

instance [DecidableEq α] : DecidableEq (KeyMap α) := fun m n =>
  decidable_of_iff (m.entries = n.entries) ⟨ext, fun h => h ▸ rfl⟩

def insert (m : KeyMap α) (k : String) (v : α) : KeyMap α :=
  ⟨insertKey k v m.entries, ascending_insertKey m.ascending⟩

def erase (m : KeyMap α) (k : String) : KeyMap α :=
  ⟨eraseKey k m.entries, m.ascending.filter _⟩

def find? (m : KeyMap α) (k : String) : Option α := findKey? k m.entries

/-- The map with an entry, unless it has one with that key. -/
def insertNew (m : KeyMap α) (k : String) (v : α) : KeyMap α :=
  if (m.find? k).isSome then m else m.insert k v

def size (m : KeyMap α) : Nat := m.entries.length

def isEmpty (m : KeyMap α) : Bool := m.entries.isEmpty

def keys (m : KeyMap α) : List String := m.entries.map (·.1)

/-- The map with the given entries; of entries with one key the last one counts. -/
def ofList (es : List (String × α)) : KeyMap α :=
  es.foldl (fun m e => m.insert e.1 e.2) empty

end KeyMap

end DataMapper
