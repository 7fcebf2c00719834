import DataMapper.Proofs.Number.Digits
import DataMapper.Query.Fragment

/-!
# Text that leaves the scan as it was

A statement is put together from pieces. The scan of the whole is known from the scans of the pieces
where each piece, read in live text, ends in live text again.

## Main definitions

* `isInert` — characters that neither delimit a region nor mark a placeholder.
* `Closed` — text that is read from live text to live text and holds no placeholder.
* `LiteralShape` — the forms that the literal of a value takes.
-/

namespace DataMapper.Sql

open Number Text

/-! ## Characters -/

/-- A character that stands for itself wherever it is read in live text. -/
def isInert (c : Char) : Bool :=
  c != '?' && c != '\'' && c != '"' && c != '-' && c != '/' && c != '*' && c != '$'

theorem isInert_iff {c : Char} :
    isInert c = true ↔
      c ≠ '?' ∧ c ≠ '\'' ∧ c ≠ '"' ∧ c ≠ '-' ∧ c ≠ '/' ∧ c ≠ '*' ∧ c ≠ '$' := by
  simp [isInert, and_assoc]

namespace Mode

theorem enter_of_isInert {c : Char} (h : isInert c = true) : enter c = plain := by
  unfold enter
  split <;> simp_all [isInert]

@[simp] theorem step_plain (c : Char) : plain.step c = enter c := rfl

/-- After an inert character the scan is live, in a tag only where it was in one. -/
theorem step_of_isInert {m : Mode} {c : Char} (live : m.isLive = true) (h : isInert c = true) :
    m.step c = plain ∨ ∃ name, m = tag name ∧ m.step c = tag (name ++ [c]) := by
  obtain ⟨-, -, -, minus, -, star, dollar⟩ := isInert_iff.1 h
  cases m with
  | plain => exact .inl (enter_of_isInert h)
  | hyphen => exact .inl (by simp [step, minus, enter_of_isInert h])
  | slash => exact .inl (by simp [step, star, enter_of_isInert h])
  | tag name =>
    by_cases joins : isNameChar c && !(name.isEmpty && c.isDigit)
    · exact .inr ⟨name, rfl, by rw [step, if_neg dollar, if_pos joins]⟩
    · exact .inl (by rw [step, if_neg dollar, if_neg joins, enter_of_isInert h])
  | quoted | lineComment | blockComment | body => cases live

end Mode

theorem isPlaceholder_of_isInert {c : Char} (h : isInert c = true) (m : Mode) :
    isPlaceholder m c = false := by
  simp [isPlaceholder, (isInert_iff.1 h).1]

theorem le_of_mem_offsetsFrom {m : Mode} {offset : Nat} {cs : List Char} {i : Nat}
    (h : i ∈ offsetsFrom m offset cs) : offset ≤ i := by
  induction cs generalizing m offset with
  | nil => cases h
  | cons c cs ih =>
    rw [offsetsFrom] at h
    split at h
    · rcases List.mem_cons.1 h with rfl | later
      · exact Nat.le_refl _
      · exact Nat.le_of_add_right_le (ih later)
    · exact Nat.le_of_add_right_le (ih h)

/-- Placeholders are found from left to right. -/
theorem pairwise_offsetsFrom (m : Mode) (offset : Nat) (cs : List Char) :
    (offsetsFrom m offset cs).Pairwise (· < ·) := by
  induction cs generalizing m offset with
  | nil => exact .nil
  | cons c cs ih =>
    rw [offsetsFrom]
    split
    · refine .cons (fun i hi => ?_) (ih _ _)
      have later := le_of_mem_offsetsFrom hi
      have pos := Char.utf8Size_pos c
      omega
    · exact ih _ _

theorem offsetsFrom_add (m : Mode) (k offset : Nat) (cs : List Char) :
    offsetsFrom m (k + offset) cs = (offsetsFrom m offset cs).map (k + ·) := by
  induction cs generalizing m offset with
  | nil => rfl
  | cons c cs ih =>
    rw [offsetsFrom, offsetsFrom, Nat.add_assoc, ih]
    split <;> rfl

theorem offsetsFrom_of_notMem {cs : List Char} (h : '?' ∉ cs) (m : Mode) (offset : Nat) :
    offsetsFrom m offset cs = [] := by
  induction cs generalizing m offset with
  | nil => rfl
  | cons c cs ih =>
    obtain ⟨other, rest⟩ := by simpa using h
    have plain : isPlaceholder m c = false := by simp [isPlaceholder, Ne.symm other]
    rw [offsetsFrom, ih rest]
    simp [plain]

/-! ## Closed text -/

/-- Text that takes the scan from live text to live text and holds no placeholder. -/
def Closed (cs : List Char) : Prop :=
  Mode.plain.run cs = .plain ∧ placeholderCount .plain cs = 0

instance (cs : List Char) : Decidable (Closed cs) := inferInstanceAs (Decidable (_ ∧ _))

@[simp] theorem closed_nil : Closed [] := ⟨rfl, rfl⟩

theorem Closed.append {a b : List Char} (ha : Closed a) (hb : Closed b) : Closed (a ++ b) := by
  refine ⟨?_, ?_⟩
  · rw [Mode.run_append, ha.1, hb.1]
  · rw [placeholderCount_append, ha.1, ha.2, hb.2]

theorem closed_of_all_isInert {cs : List Char} (h : cs.all isInert = true) : Closed cs := by
  induction cs with
  | nil => exact closed_nil
  | cons c cs ih =>
    obtain ⟨hc, hcs⟩ := by simpa using h
    have rest : Closed cs := ih (by simpa using hcs)
    have first : Closed [c] := by
      simp [Closed, Mode.enter_of_isInert hc, placeholderCount, isPlaceholder_of_isInert hc]
    exact first.append rest

/-! ## Substitution -/

theorem substitute_append {m : Mode} {ts : List (List Char)} {a : List Char}
    (h : ts.length = placeholderCount m a) (us : List (List Char)) (b : List Char) :
    substitute m (ts ++ us) (a ++ b) = substitute m ts a ++ substitute (m.run a) us b := by
  induction a generalizing m ts with
  | nil =>
    obtain rfl := List.length_eq_zero_iff.1 h
    simp [substitute]
  | cons c a ih =>
    simp only [placeholderCount] at h
    cases hc : isPlaceholder m c with
    | false =>
      simp only [hc, Bool.false_eq_true, ↓reduceIte, Nat.add_zero] at h
      simp [substitute, hc, ih h]
    | true =>
      simp only [hc, ↓reduceIte] at h
      cases ts with
      | nil => simp at h
      | cons t ts => simp [substitute, hc, ih (Nat.add_right_cancel h)]

/-- Text without placeholders stays as it is. -/
theorem substitute_of_placeholderCount_eq_zero {m : Mode} {cs : List Char}
    (h : placeholderCount m cs = 0) (ts : List (List Char)) : substitute m ts cs = cs := by
  induction cs generalizing m with
  | nil => simp [substitute]
  | cons c cs ih =>
    simp only [placeholderCount, Nat.add_eq_zero_iff, ite_eq_right_iff, Nat.one_ne_zero,
      imp_false, Bool.not_eq_true] at h
    simp [substitute, h.2, ih h.1]

/-- Text in front without placeholders is left as it is. -/
theorem substitute_append_of_placeholderCount_eq_zero {m : Mode} {a : List Char}
    (h : placeholderCount m a = 0) (ts : List (List Char)) (b : List Char) :
    substitute m ts (a ++ b) = a ++ substitute (m.run a) ts b := by
  have split := @substitute_append m [] a h.symm ts b
  rwa [List.nil_append, substitute_of_placeholderCount_eq_zero h] at split

theorem substitute_isEmpty {ts : List (List Char)} (h : ∀ t ∈ ts, t ≠ []) (m : Mode)
    (cs : List Char) : (substitute m ts cs).isEmpty = cs.isEmpty := by
  cases cs with
  | nil => simp [substitute]
  | cons c cs =>
    cases hc : isPlaceholder m c with
    | false => simp [substitute, hc]
    | true =>
      cases ts with
      | nil => simp [substitute, hc]
      | cons t ts => simp [substitute, hc, h t List.mem_cons_self]

/-! ## Quoted text -/

/-- A character inside quotes leaves the scan inside quotes. -/
theorem run_quoteChar (c : Char) : (Mode.quoted '\'').run (quoteChar c) = .quoted '\'' := by
  by_cases h : c = '\''
  · subst h; rfl
  · simp [quoteChar, h, Mode.step]

theorem placeholderCount_quoteChar (c : Char) :
    placeholderCount (.quoted '\'') (quoteChar c) = 0 := by
  by_cases h : c = '\''
  · subst h; rfl
  · simp [quoteChar, h, placeholderCount, isPlaceholder, Mode.isLive]

theorem run_quoteChars (cs : List Char) :
    (Mode.quoted '\'').run (cs.flatMap quoteChar) = .quoted '\'' := by
  induction cs with
  | nil => rfl
  | cons c cs ih => rw [List.flatMap_cons, Mode.run_append, run_quoteChar, ih]

theorem placeholderCount_quoteChars (cs : List Char) :
    placeholderCount (.quoted '\'') (cs.flatMap quoteChar) = 0 := by
  induction cs with
  | nil => rfl
  | cons c cs ih =>
    rw [List.flatMap_cons, placeholderCount_append, placeholderCount_quoteChar, run_quoteChar, ih]

theorem step_quote {m : Mode} (live : m.isLive = true) : m.step '\'' = .quoted '\'' := by
  cases m with
  | plain | hyphen | slash => rfl
  | tag name =>
    have notName : isNameChar '\'' = false := by decide
    simp [Mode.step, Mode.enter, notName]
  | quoted | lineComment | blockComment | body => cases live

/-- Quoted text is left in live text wherever in live text it begins. -/
theorem run_quoted {m : Mode} (live : m.isLive = true) (cs : List Char) :
    m.run (quoted cs) = .plain := by
  rw [quoted, List.cons_append, Mode.run_cons, step_quote live, Mode.run_append, run_quoteChars]
  rfl

theorem placeholderCount_quoted {m : Mode} (live : m.isLive = true) (cs : List Char) :
    placeholderCount m (quoted cs) = 0 := by
  rw [quoted, List.cons_append, placeholderCount, step_quote live, placeholderCount_append,
    placeholderCount_quoteChars, run_quoteChars]
  simp [placeholderCount, isPlaceholder, Mode.isLive]

/-! ## Literals -/

/-- The characters of bare words and numbers. -/
def isWordChar (c : Char) : Bool := c.isAlphanum || c == '.' || c == '_'

theorem isInert_of_isWordChar {c : Char} (h : isWordChar c = true) : isInert c = true := by
  rw [isInert_iff]
  refine ⟨?_, ?_, ?_, ?_, ?_, ?_, ?_⟩ <;> rintro rfl <;> exact absurd h (by decide)

/-- A word or a number without sign, not empty. -/
def Word (cs : List Char) : Prop := cs ≠ [] ∧ ∀ c ∈ cs, isWordChar c = true

/-- The forms of literals: a word or a number, a negative number, or text between quotes, with an
`X` before them if it stands for bytes. -/
inductive LiteralShape : List Char → Prop where
  | word {cs : List Char} (h : Word cs) : LiteralShape cs
  | negative {cs : List Char} (h : Word cs) : LiteralShape ('-' :: cs)
  | quoted (cs : List Char) : LiteralShape (quoted cs)
  | bytes (cs : List Char) : LiteralShape ('X' :: Sql.quoted cs)

theorem word_of_all {cs : List Char} (ne : cs ≠ []) (h : cs.all isWordChar = true) : Word cs :=
  ⟨ne, List.all_eq_true.1 h⟩

theorem LiteralShape.signed {cs : List Char} (negative : Bool) (h : Word cs) :
    LiteralShape ((if negative then ['-'] else []) ++ cs) := by
  cases negative with
  | true => exact .negative h
  | false => exact .word h

theorem isWordChar_of_isDigit {c : Char} (h : c.isDigit = true) : isWordChar c = true := by
  simp [isWordChar, Char.isAlphanum, h]

theorem isWordChar_of_mem_toDigits {c : Char} {n : Nat} (h : c ∈ Nat.toDigits 10 n) :
    isWordChar c = true :=
  isWordChar_of_isDigit (isDigit_of_mem_toDigits h)

theorem word_toDigits (n : Nat) : Word (Nat.toDigits 10 n) :=
  ⟨Nat.toDigits_ne_nil, fun _ => isWordChar_of_mem_toDigits⟩

theorem integerChars_shape (n : Int) : LiteralShape (Json.integerChars n) := by
  unfold Json.integerChars
  split
  · exact .negative (word_toDigits _)
  · exact .word (word_toDigits _)

/-! ### Decimals -/

theorem isWordChar_of_mem_paddedDigits {c : Char} {length n : Nat}
    (h : c ∈ Decimal.paddedDigits length n) : isWordChar c = true :=
  isWordChar_of_isDigit (isDigit_of_mem_paddedDigits h)

theorem decimal_shape (d : Decimal) : LiteralShape d.chars := by
  unfold Decimal.chars
  rw [List.append_assoc]
  refine .signed _ ⟨?_, ?_⟩
  · have long := le_length_paddedDigits (d.scale + 1) d.mantissa
    have front : (Decimal.paddedDigits (d.scale + 1) d.mantissa).take
        ((Decimal.paddedDigits (d.scale + 1) d.mantissa).length - d.scale) ≠ [] := by
      rw [ne_eq, List.take_eq_nil_iff]
      rintro (none | none)
      · omega
      · simp [none] at long
    simp [front]
  · intro c hc
    rcases List.mem_append.1 hc with whole | part
    · exact isWordChar_of_mem_paddedDigits (List.mem_of_mem_take whole)
    · split at part
      · cases part
      · rcases List.mem_cons.1 part with rfl | digit
        · decide
        · exact isWordChar_of_mem_paddedDigits (List.mem_of_mem_drop digit)

/-! ### Floating-point numbers -/

theorem isWordChar_of_mem_shortest {f : Format} {x : Binary f} {c : Char}
    (h : c ∈ x.shortest.digits) : isWordChar c = true := by
  simp only [Binary.shortest, List.mem_reverse] at h
  exact isWordChar_of_mem_toDigits (List.mem_reverse.1 ((List.dropWhile_sublist _).subset h))

theorem word_positionalText (d : Digits) (h : ∀ c ∈ d.digits, isWordChar c = true) :
    Word (plainLayout.positionalText d) := by
  have zeros : ∀ n, ∀ c ∈ List.replicate n '0', isWordChar c = true := by
    intro n c hc
    rw [List.eq_of_mem_replicate hc]; decide
  unfold Layout.positionalText
  dsimp only
  split
  · -- the number is below one
    refine ⟨by simp, ?_⟩
    simp only [List.cons_append, List.mem_cons, List.mem_append]
    rintro c (rfl | rfl | hc | hc)
    · decide
    · decide
    · exact zeros _ c hc
    · exact h c hc
  split
  · -- the number is whole
    refine ⟨?_, ?_⟩
    · intro none
      have := congrArg List.length none
      simp only [List.length_append, List.length_replicate, List.length_nil] at this
      omega
    · simp only [plainLayout, List.append_nil, List.mem_append]
      rintro c (hc | hc)
      · exact h c hc
      · exact zeros _ c hc
  · refine ⟨by simp, ?_⟩
    simp only [List.mem_append, List.mem_cons]
    rintro c (hc | rfl | hc)
    · exact h c (List.mem_of_mem_take hc)
    · decide
    · exact h c (List.mem_of_mem_drop hc)

theorem float_shape (x : Double) (finite : x.isFinite = true) :
    LiteralShape (plainLayout.text x).toList := by
  have number : x.isNaN = false := by
    simp only [Binary.isFinite, decide_eq_true_eq] at finite
    simp only [Binary.isNaN, decide_eq_false_iff_not]
    omega
  simp only [Layout.text, number, finite, Bool.not_true, Bool.false_eq_true, ↓reduceIte]
  split
  · rw [String.toList_ofList]
    exact .signed _ ⟨by simp, by simp [plainLayout, isWordChar]⟩
  · rw [String.toList_ofList]
    exact .signed _ (word_positionalText _ fun _ => isWordChar_of_mem_shortest)

/-! ### All literals -/

theorem upperDigit_ne_quote : ∀ n < 16, (Nat.digitChar n).toUpper ≠ '\'' := by decide

theorem ne_quote_of_mem_upperHex {b : UInt8} {c : Char} (h : c ∈ upperHex b) : c ≠ '\'' := by
  have small : b.toNat < 256 := b.toNat_lt
  simp only [upperHex, List.mem_cons, List.not_mem_nil, or_false] at h
  rcases h with rfl | rfl
  · exact upperDigit_ne_quote _ (by omega)
  · exact upperDigit_ne_quote _ (by omega)

/-- Text without quotes stands between quotes as it is. -/
theorem quoted_of_forall_ne {cs : List Char} (h : ∀ c ∈ cs, c ≠ '\'') :
    quoted cs = '\'' :: cs ++ ['\''] := by
  have unchanged : cs.flatMap quoteChar = cs := by
    induction cs with
    | nil => rfl
    | cons c cs ih =>
      obtain ⟨hc, hcs⟩ := List.forall_mem_cons.1 h
      rw [List.flatMap_cons, ih hcs, quoteChar, if_neg hc, List.singleton_append]
  rw [quoted, unchanged]

theorem literalChars_shape (v : Value) : LiteralShape (literalChars v) := by
  cases v with
  | null => exact .word (word_of_all (by decide) (by decide))
  | bool b => cases b <;> exact .word (word_of_all (by decide) (by decide))
  | int n => exact integerChars_shape _
  | float x =>
    unfold literalChars
    dsimp only
    split
    · exact float_shape x ‹_›
    · exact .quoted _
  | decimal d => exact decimal_shape d
  | bytes bs =>
    have shape := LiteralShape.bytes (bs.flatMap upperHex)
    rw [quoted_of_forall_ne] at shape
    · exact shape
    · intro c hc
      obtain ⟨b, -, hb⟩ := List.mem_flatMap.1 hc
      exact ne_quote_of_mem_upperHex hb
  | serverNow => exact .word (word_of_all (by decide) (by decide))
  | char | text | enumName | date | time | timestamp | timestampUtc | uuid | json =>
    exact .quoted _

/-! ## Scans of literals -/

theorem Word.all_isInert {cs : List Char} (h : Word cs) : cs.all isInert = true :=
  List.all_eq_true.2 fun c hc => isInert_of_isWordChar (h.2 c hc)

theorem placeholderCount_of_all_isInert {cs : List Char} (h : cs.all isInert = true) (m : Mode) :
    placeholderCount m cs = 0 := by
  induction cs generalizing m with
  | nil => rfl
  | cons c cs ih =>
    simp only [List.all_cons, Bool.and_eq_true] at h
    rw [placeholderCount, ih h.2, isPlaceholder_of_isInert h.1]
    rfl

/-! ### Tags -/

/-- Does the text, behind the characters of a possible tag, go on with that tag? -/
def Mode.extendsTag : Mode → List Char → Bool
  | tag name, cs => cs.all isNameChar && !(name.isEmpty && cs.head?.any Char.isDigit)
  | _, _ => false

theorem Mode.enter_of_isNameChar {c : Char} (h : isNameChar c = true) : enter c = plain := by
  unfold enter
  split
  all_goals first | rfl | exact absurd h (by decide)

theorem ne_dollar_of_isNameChar {c : Char} (h : isNameChar c = true) : c ≠ '$' := by
  rintro rfl
  exact absurd h (by decide)

theorem Mode.run_of_extendsTag {name cs : List Char} (h : (tag name).extendsTag cs = true) :
    (tag name).run cs = tag (name ++ cs) := by
  induction cs generalizing name with
  | nil => simp
  | cons c cs ih =>
    simp only [extendsTag, List.all_cons, List.head?_cons, Option.any_some, Bool.and_eq_true] at h
    obtain ⟨⟨joins, rest⟩, first⟩ := h
    have next : (tag name).step c = tag (name ++ [c]) := by
      rw [step, if_neg (ne_dollar_of_isNameChar joins), if_pos (by simp [joins, first])]
    rw [run_cons, next, ih (by simp [extendsTag, rest]), List.append_assoc, List.singleton_append]

/-- Inert text that does not go on with a tag ends it. -/
theorem Mode.run_of_not_extendsTag {m : Mode} {cs : List Char} (live : m.isLive = true)
    (ne : cs ≠ []) (inert : cs.all isInert = true) (h : m.extendsTag cs = false) :
    m.run cs = plain := by
  induction cs generalizing m with
  | nil => exact absurd rfl ne
  | cons c cs ih =>
    obtain ⟨hc, hcs⟩ : isInert c = true ∧ cs.all isInert = true := by simpa using inert
    rw [run_cons]
    rcases step_of_isInert live hc with next | ⟨name, rfl, next⟩
    · exact next ▸ (closed_of_all_isInert hcs).1
    · have joins : (isNameChar c && !(name.isEmpty && c.isDigit)) = true := by
        by_cases joins : (isNameChar c && !(name.isEmpty && c.isDigit)) = true
        · exact joins
        · rw [step, if_neg (isInert_iff.1 hc).2.2.2.2.2.2, if_neg joins,
            enter_of_isInert hc] at next
          cases next
      -- the first character joins the tag, so that a later one does not
      have later : cs.all isNameChar = false := by
        rw [Bool.and_eq_true] at joins
        simpa [extendsTag, joins.1, joins.2] using h
      have some : cs ≠ [] := by
        rintro rfl
        cases later
      exact next ▸ ih rfl some hcs (by simp [extendsTag, later])

theorem Mode.extendsTag_of_mem {m : Mode} {cs : List Char} {c : Char} (hc : c ∈ cs)
    (h : isNameChar c = false) : m.extendsTag cs = false := by
  have stops : cs.all isNameChar = false := List.all_eq_false.2 ⟨c, hc, by simp [h]⟩
  cases m <;> simp [extendsTag, stops]

theorem Mode.step_minus {m : Mode} (live : m.isLive = true) (apart : m ≠ .hyphen) :
    m.step '-' = .hyphen := by
  cases m with
  | plain | slash => rfl
  | hyphen => exact absurd rfl apart
  | tag name =>
    have notName : isNameChar '-' = false := by decide
    simp [step, enter, notName]
  | quoted | lineComment | blockComment | body => cases live

/-- Only behind a hyphen does a minus sign begin a comment. -/
theorem Word.run_minus {m : Mode} {cs : List Char} (h : Word cs) (live : m.isLive = true)
    (apart : m ≠ .hyphen) : m.run ('-' :: cs) = .plain := by
  rw [Mode.run_cons, Mode.step_minus live apart]
  exact Mode.run_of_not_extendsTag rfl h.1 h.all_isInert rfl

theorem run_lineComment {cs : List Char} (h : ∀ c ∈ cs, c ≠ '\n') :
    Mode.lineComment.run cs = .lineComment := by
  induction cs with
  | nil => rfl
  | cons c cs ih =>
    obtain ⟨hc, hcs⟩ := List.forall_mem_cons.1 h
    rw [Mode.run_cons, Mode.step, if_neg hc, ih hcs]

theorem Word.run_minus_hyphen {cs : List Char} (h : Word cs) :
    Mode.hyphen.run ('-' :: cs) = .lineComment := by
  refine run_lineComment fun c hc => ?_
  rintro rfl
  exact absurd (h.2 _ hc) (by decide)

theorem step_bytes {m : Mode} (live : m.isLive = true) : (m.step 'X').isLive = true := by
  rcases Mode.step_of_isInert live (c := 'X') (by decide) with next | ⟨_, _, next⟩ <;> rw [next] <;>
    rfl

theorem run_bytes {m : Mode} (live : m.isLive = true) (cs : List Char) :
    m.run ('X' :: quoted cs) = .plain := by
  rw [Mode.run_cons, run_quoted (step_bytes live)]

theorem LiteralShape.placeholderCount {m : Mode} {cs : List Char} (h : LiteralShape cs)
    (live : m.isLive = true) : placeholderCount m cs = 0 := by
  cases h with
  | word h => exact placeholderCount_of_all_isInert h.all_isInert m
  | negative h =>
    rw [Sql.placeholderCount, placeholderCount_of_all_isInert h.all_isInert]
    simp [isPlaceholder]
  | quoted cs => exact placeholderCount_quoted live cs
  | bytes cs =>
    rw [Sql.placeholderCount, placeholderCount_quoted (step_bytes live)]
    simp [isPlaceholder]

theorem LiteralShape.closed {cs : List Char} (h : LiteralShape cs) : Closed cs := by
  refine ⟨?_, h.placeholderCount rfl⟩
  cases h with
  | word h => exact (closed_of_all_isInert h.all_isInert).1
  | negative h => exact h.run_minus rfl nofun
  | quoted cs => exact run_quoted rfl cs
  | bytes cs => exact run_bytes rfl cs

theorem closed_literalChars (v : Value) : Closed (literalChars v) := (literalChars_shape v).closed

end DataMapper.Sql
