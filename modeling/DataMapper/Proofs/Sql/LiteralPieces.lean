import DataMapper.Proofs.Sql.Division

/-!
# Literals in front of other text

The literal of a value is words, numbers and quoted runs that are closed. The text behind it falls
into the pieces that it falls into by itself, so its placeholders are found where they are, as many
bytes further on as the literal takes.

## Main definitions

* `Piece.IsLiteral` — what literals fall into.
* `StandsApart` — text that falls into the same pieces whatever stands behind it.
-/

namespace DataMapper.Sql

open Text

/-- A character that marks no placeholder, or a run between single quotes. -/
def Piece.IsLiteral : Piece → Prop
  | closed opener _ closer => opener = ['\''] ∧ closer = ['\'']
  | unclosed _ _ => False
  | single c => c ≠ '?'

/-- In front of any text the characters fall into the same pieces. -/
def StandsApart (front : List Char) (fs : List Piece) : Prop :=
  ∀ cs ps, Divides cs ps → Divides (front ++ cs) (fs ++ ps)

namespace StandsApart

variable {front behind : List Char} {fs bs : List Piece}

theorem append (hf : StandsApart front fs) (hb : StandsApart behind bs) :
    StandsApart (front ++ behind) (fs ++ bs) := by
  intro cs ps h
  rw [List.append_assoc, List.append_assoc]
  exact hf _ _ (hb _ _ h)

theorem divides (hf : StandsApart front fs) : Divides front fs := by
  simpa using hf [] [] .nil

/-- The text behind is divided as it is by itself. -/
theorem divides_iff (hf : StandsApart front fs) {cs : List Char} {ps : List Piece} :
    Divides (front ++ cs) (fs ++ ps) ↔ Divides cs ps := by
  refine ⟨fun whole => ?_, hf cs ps⟩
  obtain ⟨qs, h⟩ := exists_divides cs
  obtain rfl := List.append_cancel_left (whole.unique (hf cs qs h))
  exact h

end StandsApart

/-! ## The forms of literals -/

theorem Word.standsApart {cs : List Char} (h : Word cs) : StandsApart cs (cs.map .single) :=
  fun _ _ => divides_append_of_all_isInert h.all_isInert

/-- A minus sign in front of a word opens nothing. -/
theorem Word.minus_standsApart {cs : List Char} (h : Word cs) :
    StandsApart ('-' :: cs) (('-' :: cs).map .single) := by
  intro behind ps rest
  refine .single (fun opener closer opens first => ?_) (h.standsApart behind ps rest)
  obtain ⟨c, cs, rfl⟩ := List.exists_cons_of_ne_nil h.1
  cases opens with
  | lineComment =>
    obtain rfl : '-' = c := by simpa using first
    exact absurd (h.2 '-' List.mem_cons_self) (by decide)
  | single | double | blockComment | dollar => simp [dollarQuote] at first

/-- A run between single quotes ends at the first quote. -/
theorem run_standsApart {body : List Char} (none : '\'' ∉ body) :
    StandsApart ('\'' :: body ++ ['\'']) [.closed ['\''] body ['\'']] := by
  intro cs ps h
  refine .closed .single ?_ h
  rw [Closes, List.dropLast_concat]
  exact fun inside => none (inside.subset List.mem_cons_self)

/-- Text in quotes falls into one run for each quote in it and another one. -/
theorem exists_runs (cs : List Char) {body : List Char} (none : '\'' ∉ body) :
    ∃ fs, (∀ p ∈ fs, p.IsLiteral) ∧
      StandsApart ('\'' :: body ++ cs.flatMap quoteChar ++ ['\'']) fs := by
  -- `body` is what the run that is open holds so far
  induction cs generalizing body with
  | nil =>
    refine ⟨[.closed ['\''] body ['\'']], by simp [Piece.IsLiteral], ?_⟩
    simpa using run_standsApart none
  | cons c cs ih =>
    by_cases quote : c = '\''
    · subst quote
      obtain ⟨fs, literal, apart⟩ := @ih [] List.not_mem_nil
      refine ⟨.closed ['\''] body ['\''] :: fs, ?_, ?_⟩
      · simpa [Piece.IsLiteral] using literal
      · simpa [quoteChar] using (run_standsApart none).append apart
    · obtain ⟨fs, literal, apart⟩ := @ih (body ++ [c]) (by simp [none, Ne.symm quote])
      refine ⟨fs, literal, ?_⟩
      simpa [quoteChar, quote] using apart

theorem Word.isLiteral {cs : List Char} (h : Word cs) :
    ∀ p ∈ cs.map Piece.single, p.IsLiteral := by
  intro p hp
  obtain ⟨c, hc, rfl⟩ := List.mem_map.1 hp
  exact (isInert_iff.1 (isInert_of_isWordChar (h.2 c hc))).1

theorem LiteralShape.exists_pieces {cs : List Char} (h : LiteralShape cs) :
    ∃ fs, (∀ p ∈ fs, p.IsLiteral) ∧ StandsApart cs fs := by
  cases h with
  | word h => exact ⟨_, h.isLiteral, h.standsApart⟩
  | negative h =>
    refine ⟨_, ?_, h.minus_standsApart⟩
    rw [List.map_cons, List.forall_mem_cons]
    exact ⟨by simp [Piece.IsLiteral], h.isLiteral⟩
  | quoted cs => exact exists_runs cs List.not_mem_nil
  | bytes cs =>
    have first : Word ['X'] := word_of_all (by simp) (by decide)
    obtain ⟨fs, literal, apart⟩ := exists_runs cs List.not_mem_nil
    refine ⟨_, ?_, first.standsApart.append apart⟩
    exact List.forall_mem_append.2 ⟨first.isLiteral, literal⟩

/-! ## Text behind literals -/

/-- The placeholders behind closed text are those of the text behind it, by the bytes of the closed
text further on. -/
theorem Closed.offsetsFrom_append {front : List Char} (h : Closed front) (cs : List Char) :
    offsetsFrom .plain 0 (front ++ cs) =
      (offsetsFrom .plain 0 cs).map (byteLength front + ·) := by
  have none : offsetsFrom .plain 0 front = [] := by
    rw [← List.length_eq_zero_iff, length_offsetsFrom, h.2]
  rw [Sql.offsetsFrom_append, none, h.1, List.nil_append, ← offsetsFrom_add, Nat.zero_add,
    Nat.add_zero]

/-- In front of any text the literal of a value falls into words, numbers and closed runs between
single quotes, none of them a placeholder, a comment or a dollar-quoted body, and the text behind it
falls into its own pieces: its placeholders are those that it has by itself, shifted by the bytes of
the literal. -/
theorem placeholderOffsets_renderLiteral (v : Value) (sql : String) :
    placeholderOffsets (renderLiteral v ++ sql) =
        (placeholderOffsets sql).map ((renderLiteral v).utf8ByteSize + ·) ∧
      ∃ fs, (∀ p ∈ fs, p.IsLiteral) ∧ Divides (renderLiteral v).toList fs ∧
        ∀ ps, Divides (renderLiteral v ++ sql).toList (fs ++ ps) ↔ Divides sql.toList ps := by
  have text : (renderLiteral v).toList = literalChars v := String.toList_ofList
  obtain ⟨fs, literal, apart⟩ := (literalChars_shape v).exists_pieces
  refine ⟨?_, fs, literal, text ▸ apart.divides, fun ps => ?_⟩
  · rw [placeholderOffsets, String.toList_append, ← byteLength_toList, text]
    exact (closed_literalChars v).offsetsFrom_append sql.toList
  · rw [String.toList_append, text]
    exact apart.divides_iff

/-- Quotes, hyphens and a question mark in a text, in front of text with a placeholder. -/
example : placeholderOffsets (renderLiteral (.text "it's -- $$?") ++ " OR a=?") = [20] := by
  decide

end DataMapper.Sql
