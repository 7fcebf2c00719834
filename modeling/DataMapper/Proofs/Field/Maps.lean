import DataMapper.Field.Localized
import DataMapper.Proofs.Text.Pairs

/-!
# Written maps

A map is written as its entries, in the order of their keys. That form is canonical: it reads back
as the map, and no other map has it. Any other text that can be read stands for the map in which the
last entry of a key counts, and for the written form of that map.

## Main statements

* `decodeMap_encodeMap` — what is written for a map reads back as the map.
* `LocalizedString.decodeInto_encode` — a localized text takes over the written form of another.
-/

namespace DataMapper

open Text

variable {α : Type}

/-! ## Entries -/

theorem findKey?_cons (k : String) (e : String × α) (es : List (String × α)) :
    findKey? k (e :: es) = if e.1 = k then some e.2 else findKey? k es := by
  by_cases same : e.1 = k <;> simp [findKey?, same]

theorem findKey?_insertKey (j k : String) (v : α) (es : List (String × α)) :
    findKey? k (insertKey j v es) = if j = k then some v else findKey? k es := by
  induction es with
  | nil => rw [insertKey, findKey?_cons]
  | cons e es ih =>
    rw [insertKey]
    split
    · rw [findKey?_cons]
    · split
      · next same =>
        rw [findKey?_cons, findKey?_cons, ← same]
        split <;> rfl
      · next other =>
        rw [findKey?_cons, ih, findKey?_cons]
        by_cases first : e.1 = k
        · have later : j ≠ k := fun same => other (same.trans first.symm)
          simp [first, later]
        · simp [first]

/-- An entry behind all others is put at the end. -/
theorem insertKey_of_forall_lt {k : String} {es : List (String × α)} (h : ∀ e ∈ es, e.1 < k)
    (v : α) : insertKey k v es = es ++ [(k, v)] := by
  induction es with
  | nil => rfl
  | cons e es ih =>
    obtain ⟨first, rest⟩ := List.forall_mem_cons.1 h
    have behind : ¬ k < e.1 := Std.not_lt.mpr (Std.le_of_lt first)
    have other : k ≠ e.1 := fun same => String.lt_irrefl k (same ▸ first)
    rw [insertKey, if_neg behind, if_neg other, ih rest, List.cons_append]

/-! ## Maps -/

namespace KeyMap

theorem find?_insert (m : KeyMap α) (j k : String) (v : α) :
    (m.insert j v).find? k = if j = k then some v else m.find? k :=
  findKey?_insertKey j k v m.entries

theorem find?_insertNew (m : KeyMap α) (j k : String) (v : α) :
    (m.insertNew j v).find? k = (m.find? k).or (if j = k then some v else none) := by
  unfold insertNew
  split
  · next there =>
    split
    · next same => rw [← same, Option.or_of_isSome there]
    · exact Option.or_none.symm
  · next absent =>
    rw [find?_insert]
    split
    · next same => rw [← same, Option.not_isSome_iff_eq_none.1 absent, Option.none_or]
    · exact Option.or_none.symm

theorem find?_foldl_insert (k : String) (m : KeyMap α) (es : List (String × α)) :
    (es.foldl (fun m e => m.insert e.1 e.2) m).find? k =
      (findKey? k es.reverse).or (m.find? k) := by
  induction es generalizing m with
  | nil => rfl
  | cons e es ih =>
    have last : findKey? k (es.reverse ++ [e]) =
        (findKey? k es.reverse).or (if e.1 = k then some e.2 else none) := by
      by_cases same : e.1 = k <;> simp [findKey?, List.find?_append, same]
    rw [List.foldl_cons, ih, find?_insert, List.reverse_cons, last, Option.or_assoc]
    congr 1
    split <;> rfl

/-- Of the entries with one key the last one counts. -/
theorem find?_ofList (k : String) (es : List (String × α)) :
    (ofList es).find? k = findKey? k es.reverse := by
  have none : (empty : KeyMap α).find? k = none := rfl
  rw [ofList, find?_foldl_insert, none, Option.or_none]

theorem entries_foldl_insert {m : KeyMap α} {es : List (String × α)}
    (h : Ascending (m.entries ++ es)) :
    (es.foldl (fun m e => m.insert e.1 e.2) m).entries = m.entries ++ es := by
  induction es generalizing m with
  | nil => simp
  | cons e es ih =>
    have behind : ∀ d ∈ m.entries, d.1 < e.1 := fun d hd =>
      (List.pairwise_append.1 h).2.2 d hd e List.mem_cons_self
    have put : (m.insert e.1 e.2).entries = m.entries ++ [e] := insertKey_of_forall_lt behind e.2
    have all : m.entries ++ e :: es = (m.insert e.1 e.2).entries ++ es := by
      rw [put, List.append_assoc, List.singleton_append]
    rw [List.foldl_cons, ih (all ▸ h), all]

theorem ofList_entries (m : KeyMap α) : ofList m.entries = m :=
  ext (entries_foldl_insert (m := empty) m.ascending)

end KeyMap

theorem decodeMap_encodeMap (m : KeyMap String) : decodeMap (encodeMap m) = .ok m := by
  rw [decodeMap, encodeMap, decodePairs_encodePairs]
  exact congrArg Except.ok m.ofList_entries

theorem encodeMap_inj {m n : KeyMap String} : encodeMap m = encodeMap n ↔ m = n := by
  refine ⟨fun same => ?_, congrArg encodeMap⟩
  have read : Except.ok m = (Except.ok n : Except PairsError (KeyMap String)) := by
    rw [← decodeMap_encodeMap m, same, decodeMap_encodeMap]
  exact Except.ok.inj read

/-! ## Localized texts -/

namespace LocalizedString

/-- An instance that takes over a written map holds that map. -/
theorem decodeInto_encodeMap {st : TextStore} {h : LocalizedString} (valid : st.Valid h)
    (m : Translations) :
    ∃ st', h.decodeInto st (encodeMap m) = .ok st' ∧ st'.read h = m := by
  refine ⟨st.write h m, ?_, TextStore.read_write_self valid m⟩
  rw [decodeInto, decodeMap_encodeMap]
  rfl

theorem equal_of_read_eq {st : TextStore} {h k : LocalizedString} (same : st.read h = st.read k) :
    h.equal st k = true := by
  simp [equal, same]

/-- A localized text that takes over the written form of another one becomes equal to it. -/
theorem decodeInto_encode {st : TextStore} {k : LocalizedString} (valid : st.Valid k)
    (h : LocalizedString) :
    ∃ st', k.decodeInto st (h.encode st) = .ok st' ∧ st'.read k = st.read h ∧
      h.equal st' k = true := by
  obtain ⟨st', taken, content⟩ := decodeInto_encodeMap valid (st.read h)
  refine ⟨st', taken, content, ?_⟩
  by_cases same : k = h
  · simp [equal, same]
  · have kept : st'.read h = st.read h := by
      rw [decodeInto, decodeMap_encodeMap] at taken
      cases taken
      exact TextStore.read_write_ne st same (st.read h)
    exact equal_of_read_eq (kept.trans content.symm)

theorem valid_of_decodeInto {st st' : TextStore} {h : LocalizedString} (valid : st.Valid h)
    {s : String} (taken : h.decodeInto st s = .ok st') : st'.Valid h := by
  unfold decodeInto at taken
  cases read : decodeMap s with
  | error e =>
    rw [read] at taken
    cases taken
  | ok m =>
    rw [read] at taken
    cases taken
    simpa [TextStore.Valid, TextStore.write] using valid

end LocalizedString

/-! ## Canonical forms -/

/-- Lists of pairs, maps and localized texts read back from what is written for them, and no two
maps are written alike. A text that can be read stands for the map in which the last entry of a key
counts; the written form of that map reads back as the same map. -/
theorem encode_canonical {st : TextStore} {k : LocalizedString} (valid : st.Valid k) :
    (∀ pairs, decodePairs (encodePairs pairs) = .ok pairs) ∧
      (∀ m, decodeMap (encodeMap m) = .ok m) ∧
      (∀ m n, encodeMap m = encodeMap n ↔ m = n) ∧
      (∀ s pairs, decodePairs s = .ok pairs →
        ∃ m, decodeMap s = .ok m ∧ (∀ key, m.find? key = findKey? key pairs.reverse) ∧
          decodeMap (encodeMap m) = .ok m) ∧
      (∀ h, ∃ st', k.decodeInto st (h.encode st) = .ok st' ∧ st'.read k = st.read h ∧
        h.equal st' k = true) ∧
      (∀ h, h.encode st = k.encode st ↔ st.read h = st.read k) ∧
      ∀ s st', k.decodeInto st s = .ok st' →
        ∃ st'', k.decodeInto st' (k.encode st') = .ok st'' ∧ st''.read k = st'.read k ∧
          k.encode st'' = k.encode st' := by
  refine ⟨decodePairs_encodePairs, decodeMap_encodeMap, fun _ _ => encodeMap_inj, ?_,
    LocalizedString.decodeInto_encode valid, fun _ => encodeMap_inj, ?_⟩
  · intro s pairs read
    refine ⟨.ofList pairs, ?_, fun key => KeyMap.find?_ofList key pairs, decodeMap_encodeMap _⟩
    rw [decodeMap, read]
    rfl
  · intro s st' taken
    have held := LocalizedString.valid_of_decodeInto valid taken
    obtain ⟨st'', again, content⟩ := LocalizedString.decodeInto_encodeMap held (st'.read k)
    exact ⟨st'', again, content, congrArg encodeMap content⟩

/-- Two entries with one key, and a key that holds an equals sign and a line feed. -/
theorem encode_canonical_repeatedKey :
    (TextStore.mk [.empty]).Valid ⟨0⟩ ∧
      decodePairs "b=1\n\na\\=\\n=x\nb=2\\r" = .ok [("b", "1"), ("a=\n", "x"), ("b", "2\r")] ∧
      ∃ m, decodeMap "b=1\n\na\\=\\n=x\nb=2\\r" = .ok m ∧ m.find? "b" = some "2\r" ∧
        encodeMap m = "a\\=\\n=x\nb=2\\r" ∧ decodeMap (encodeMap m) = .ok m := by
  have valid : (TextStore.mk [.empty]).Valid ⟨0⟩ := by simp [TextStore.Valid]
  have read : decodePairs "b=1\n\na\\=\\n=x\nb=2\\r" =
    .ok [("b", "1"), ("a=\n", "x"), ("b", "2\r")] := rfl
  obtain ⟨-, -, -, texts, -⟩ := encode_canonical valid
  obtain ⟨m, found, last, again⟩ := texts _ _ read
  refine ⟨valid, read, m, found, (last "b").trans (by decide), ?_, again⟩
  rw [decodeMap, read] at found
  cases found
  decide

end DataMapper
