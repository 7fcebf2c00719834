import DataMapper.Proofs.Sql.Division

/-!
# The scan by bytes

The placeholders of a text can be found by going through its UTF-8 bytes, with a jump over each
region to the first occurrence of what closes it. Such a scan ends since every jump goes forward. It
never cuts a text inside a character, and it finds the same placeholders as the scan by characters.

## Main definitions

* `charsFrom?`, `charsTo?` — a text cut at a byte offset, if that is between two characters.
* `jump` — where the scan goes on behind a byte.
* `scanFrom` — the placeholders from a byte on.
-/

namespace DataMapper.Sql

open Text

/-! ## Bytes -/

/-- The bytes of characters. -/
def utf8Bytes (cs : List Char) : List UInt8 := cs.flatMap String.utf8EncodeChar

/-- The byte of an ASCII character. -/
def byteOf (c : Char) : UInt8 := UInt8.ofNat c.toNat

/-- The text from a byte offset on. There is none from inside a character or behind the end. -/
def charsFrom? (n : Nat) : List Char → Option (List Char)
  | [] => if n = 0 then some [] else none
  | c :: cs =>
    if n = 0 then some (c :: cs)
    else if c.utf8Size ≤ n then charsFrom? (n - c.utf8Size) cs else none

/-- The text before a byte offset. There is none if the offset is inside a character or behind the
end. -/
def charsTo? (n : Nat) : List Char → Option (List Char)
  | [] => if n = 0 then some [] else none
  | c :: cs =>
    if n = 0 then some []
    else if c.utf8Size ≤ n then (charsTo? (n - c.utf8Size) cs).map (c :: ·) else none

/-- The byte offset of the first occurrence of a text. -/
def find? (pattern : List Char) : List Char → Option Nat
  | [] => if pattern = [] then some 0 else none
  | c :: cs =>
    if pattern <+: c :: cs then some 0 else (find? pattern cs).map (c.utf8Size + ·)

/-- The byte offset of the first character of a kind. -/
def findChar? (p : Char → Bool) : List Char → Option Nat
  | [] => none
  | c :: cs => if p c then some 0 else (findChar? p cs).map (c.utf8Size + ·)

/-! ## Jumps -/

/-- The tag that opens a dollar-quoted body at the start of a text, if there is one. The outer
option is whether every cut is between two characters. -/
def dollarTag (text : List Char) : Option (Option (List Char)) := do
  let name ← charsFrom? 1 text
  if name.head?.any Char.isDigit then
    return none
  match findChar? (fun c => !isNameChar c) name with
  | none => return none
  | some length =>
    let behind ← charsFrom? length name
    if behind.head? = some '$' then
      let tag ← charsTo? (length + 2) text
      return some tag
    return none

/-- The byte at which the scan goes on behind the one at an offset. There is none if there is no
byte at the offset, or if the text would be cut inside a character. -/
def jump (sql : List Char) (i : Nat) : Option Nat :=
  let bytes := utf8Bytes sql
  let stop := bytes.length
  match bytes.drop i with
  | [] => none
  | b :: behind =>
    if b = byteOf '\'' ∨ b = byteOf '"' then
      some ((behind.idxOf? b).elim stop (i + · + 2))
    else if b = byteOf '-' ∧ behind.head? = some (byteOf '-') then
      some (((b :: behind).idxOf? (byteOf '\n')).elim stop (i + · + 1))
    else if b = byteOf '/' ∧ behind.head? = some (byteOf '*') then do
      let text ← charsFrom? (i + 2) sql
      return (find? ['*', '/'] text).elim stop (i + 2 + · + 2)
    else if b = byteOf '$' then do
      let text ← charsFrom? i sql
      match ← dollarTag text with
      | none => return i + 1
      | some tag =>
        let body := i + byteLength tag
        let text ← charsFrom? body sql
        return (find? tag text).elim stop (body + · + byteLength tag)
    else some (i + 1)

theorem byteLength_of_charsTo? {n : Nat} {cs front : List Char} (h : charsTo? n cs = some front) :
    byteLength front = n := by
  induction cs generalizing n front with
  | nil =>
    rw [charsTo?] at h
    split at h <;> cases h
    exact ‹n = 0›.symm
  | cons c cs ih =>
    rw [charsTo?] at h
    split at h
    · cases h
      exact ‹n = 0›.symm
    · split at h
      · obtain ⟨rest, found, rfl⟩ := Option.map_eq_some_iff.1 h
        rw [byteLength_cons, ih found]
        omega
      · cases h

theorem byteLength_pos_of_dollarTag {cs tag : List Char} (h : dollarTag cs = some (some tag)) :
    0 < byteLength tag := by
  unfold dollarTag at h
  obtain ⟨name, -, h⟩ := Option.bind_eq_some_iff.1 h
  split at h
  · cases h
  · split at h
    · cases h
    · obtain ⟨behind, -, h⟩ := Option.bind_eq_some_iff.1 h
      split at h
      · obtain ⟨front, found, h⟩ := Option.bind_eq_some_iff.1 h
        cases h
        rw [byteLength_of_charsTo? found]
        omega
      · cases h

theorem lt_elim {i stop : Nat} {f : Nat → Nat} (hs : i < stop) (hf : ∀ p, i < f p)
    (found : Option Nat) : i < found.elim stop f := by
  cases found with
  | none => exact hs
  | some p => exact hf p

/-- Every jump goes forward. -/
theorem lt_of_jump {sql : List Char} {i next : Nat} (h : jump sql i = some next) : i < next := by
  unfold jump at h
  dsimp only at h
  split at h
  · cases h
  · rename_i b behind bytes
    have stop : i < (utf8Bytes sql).length := by
      have length := congrArg List.length bytes
      simp only [List.length_drop, List.length_cons] at length
      omega
    split at h
    · cases h
      exact lt_elim stop (by omega) _
    split at h
    · cases h
      exact lt_elim stop (by omega) _
    split at h
    · obtain ⟨text, -, h⟩ := Option.bind_eq_some_iff.1 h
      cases h
      exact lt_elim stop (by omega) _
    split at h
    · obtain ⟨text, -, h⟩ := Option.bind_eq_some_iff.1 h
      obtain ⟨tag, opening, h⟩ := Option.bind_eq_some_iff.1 h
      split at h
      · cases h
        omega
      · obtain ⟨body, -, h⟩ := Option.bind_eq_some_iff.1 h
        cases h
        have pos := byteLength_pos_of_dollarTag opening
        exact lt_elim stop (by omega) _
    · cases h
      omega

/-- The byte offsets of the placeholders from a byte on, if no cut is inside a character. -/
def scanFrom (sql : List Char) (i : Nat) : Option (List Nat) :=
  if i < (utf8Bytes sql).length then
    match _found : jump sql i with
    | none => none
    | some next =>
      (scanFrom sql next).map fun marks =>
        if ((utf8Bytes sql).drop i).head? = some (byteOf '?') then i :: marks else marks
  else some []
termination_by (utf8Bytes sql).length - i
decreasing_by
  have forward := lt_of_jump _found
  omega

/-! ## Characters and their bytes -/

theorem utf8EncodeChar_of_ascii {c : Char} (h : c.toNat < 128) :
    String.utf8EncodeChar c = [byteOf c] := by
  have small : c.toNat ≤ 127 := Nat.le_of_lt_succ h
  simp [String.utf8EncodeChar, small, byteOf]

theorem utf8Size_of_ascii {c : Char} (h : c.toNat < 128) : c.utf8Size = 1 := by
  rw [← String.length_utf8EncodeChar, utf8EncodeChar_of_ascii h]
  rfl

theorem byteOf_inj {c d : Char} (hc : c.toNat < 128) (hd : d.toNat < 128) :
    byteOf c = byteOf d ↔ c = d := by
  refine ⟨fun same => ?_, congrArg byteOf⟩
  have bytes := congrArg UInt8.toNat same
  simp only [byteOf, UInt8.toNat_ofNat'] at bytes
  exact Char.toNat_inj.1 (by omega)

/-- The bytes of all other characters are none of an ASCII character. -/
theorem high_of_not_ascii {c : Char} (h : ¬ c.toNat < 128) :
    ∀ b ∈ String.utf8EncodeChar c, 128 ≤ b.toNat := by
  have large : ¬ c.val.toNat ≤ 127 := fun small => h (Nat.lt_succ_of_le small)
  simp only [String.utf8EncodeChar, large, ↓reduceIte]
  split
  · simp
    omega
  · split
    · simp
      omega
    · simp
      omega

theorem ne_byteOf {b : UInt8} (h : 128 ≤ b.toNat) {d : Char} (hd : d.toNat < 128) :
    b ≠ byteOf d := by
  rintro rfl
  simp only [byteOf, UInt8.toNat_ofNat'] at h
  omega

@[simp] theorem utf8Bytes_cons (c : Char) (cs : List Char) :
    utf8Bytes (c :: cs) = String.utf8EncodeChar c ++ utf8Bytes cs := rfl

@[simp] theorem utf8Bytes_append (a b : List Char) :
    utf8Bytes (a ++ b) = utf8Bytes a ++ utf8Bytes b := List.flatMap_append

@[simp] theorem length_utf8Bytes (cs : List Char) : (utf8Bytes cs).length = byteLength cs := by
  induction cs with
  | nil => rfl
  | cons c cs ih => simp [ih]

theorem utf8Bytes_ascii {c : Char} (h : c.toNat < 128) (cs : List Char) :
    utf8Bytes (c :: cs) = byteOf c :: utf8Bytes cs := by
  rw [utf8Bytes_cons, utf8EncodeChar_of_ascii h]
  rfl

theorem drop_utf8Bytes (before cs : List Char) :
    (utf8Bytes (before ++ cs)).drop (byteLength before) = utf8Bytes cs := by
  rw [utf8Bytes_append, ← length_utf8Bytes, List.drop_left]

theorem head?_utf8Bytes_eq_some_iff {d : Char} (hd : d.toNat < 128) (cs : List Char) :
    (utf8Bytes cs).head? = some (byteOf d) ↔ cs.head? = some d := by
  cases cs with
  | nil => simp [utf8Bytes]
  | cons c cs =>
    by_cases hc : c.toNat < 128
    · simp [utf8EncodeChar_of_ascii hc, byteOf_inj hc hd]
    · have other : c ≠ d := by
        rintro rfl
        exact hc hd
      obtain ⟨b, bs, bytes⟩ := List.exists_cons_of_ne_nil (String.utf8EncodeChar_ne_nil (c := c))
      have high := high_of_not_ascii hc b (by simp [bytes])
      simp [bytes, other, ne_byteOf high hd]

/-! ## Cuts between characters -/

theorem charsFrom?_append (before cs : List Char) :
    charsFrom? (byteLength before) (before ++ cs) = some cs := by
  induction before with
  | nil => cases cs <;> rfl
  | cons c before ih =>
    have pos := Char.utf8Size_pos c
    rw [List.cons_append, charsFrom?, byteLength_cons, if_neg (by omega), if_pos (by omega),
      Nat.add_sub_cancel_left, ih]

theorem charsTo?_append (before cs : List Char) :
    charsTo? (byteLength before) (before ++ cs) = some before := by
  induction before with
  | nil => cases cs <;> rfl
  | cons c before ih =>
    have pos := Char.utf8Size_pos c
    rw [List.cons_append, charsTo?, byteLength_cons, if_neg (by omega), if_pos (by omega),
      Nat.add_sub_cancel_left, ih]
    rfl

theorem find?_eq (p cs : List Char) :
    find? p cs = (cut p cs).map fun split => byteLength split.1 := by
  induction cs with
  | nil => by_cases h : p = [] <;> simp [find?, cut, h]
  | cons c cs ih =>
    by_cases h : p <+: c :: cs
    · simp [find?, cut, h]
    · simp only [find?, cut, h, ↓reduceIte, ih, Option.map_map]
      rfl

/-- The first byte of an ASCII character is the first occurrence of that character. -/
theorem idxOf?_utf8Bytes {q : Char} (hq : q.toNat < 128) (cs : List Char) :
    (utf8Bytes cs).idxOf? (byteOf q) = find? [q] cs := by
  induction cs with
  | nil => rfl
  | cons c cs ih =>
    by_cases same : c = q
    · subst same
      rw [utf8Bytes_cons, utf8EncodeChar_of_ascii hq, List.singleton_append, List.idxOf?,
        List.findIdx?_cons]
      simp [find?]
    · have first : ¬ [q] <+: c :: cs := not_prefix_of_head (by simp) (by simpa using Ne.symm same)
      have none : (String.utf8EncodeChar c).findIdx? (· == byteOf q) = none := by
        rw [List.findIdx?_eq_none_iff]
        intro b hb
        rw [beq_eq_false_iff_ne]
        by_cases hc : c.toNat < 128
        · rw [utf8EncodeChar_of_ascii hc, List.mem_singleton] at hb
          rwa [hb, Ne, byteOf_inj hc hq]
        · exact ne_byteOf (high_of_not_ascii hc b hb) hq
      rw [find?, if_neg first, ← ih, List.idxOf?, utf8Bytes_cons, List.findIdx?_append, none]
      simp [Nat.add_comm]

theorem findChar?_append {p : Char → Bool} {front : List Char} {c : Char}
    (h : ∀ d ∈ front, p d = false) (hc : p c = true) (cs : List Char) :
    findChar? p (front ++ c :: cs) = some (byteLength front) := by
  induction front with
  | nil => simp [findChar?, hc]
  | cons d front ih =>
    obtain ⟨hd, rest⟩ := List.forall_mem_cons.1 h
    simp [findChar?, hd, ih rest]

theorem findChar?_eq_none {p : Char → Bool} {cs : List Char} (h : ∀ d ∈ cs, p d = false) :
    findChar? p cs = none := by
  induction cs with
  | nil => rfl
  | cons d cs ih =>
    obtain ⟨hd, rest⟩ := List.forall_mem_cons.1 h
    simp [findChar?, hd, ih rest]

/-! ## Tags -/

theorem dollarTag_of_isTag {name : List Char} (tag : IsTag name) (rest : List Char) :
    dollarTag (dollarQuote name ++ rest) = some (some (dollarQuote name)) := by
  have text : dollarQuote name ++ rest = ['$'] ++ (name ++ '$' :: rest) := by simp [dollarQuote]
  have first : charsFrom? 1 (dollarQuote name ++ rest) = some (name ++ '$' :: rest) := by
    rw [text]
    exact charsFrom?_append ['$'] _
  have digit : (name.head?.getD '$').isDigit = false := by
    cases name with
    | nil => rfl
    | cons c name => simpa using tag.2
  have found : findChar? (fun c => !isNameChar c) (name ++ '$' :: rest) = some (byteLength name) :=
    findChar?_append (fun d hd => by simp [List.all_eq_true.1 tag.1 d hd]) (by decide) rest
  have whole :
      charsTo? (byteLength name + 2) (dollarQuote name ++ rest) = some (dollarQuote name) := by
    have length : byteLength (dollarQuote name) = byteLength name + 2 := by
      have one : Char.utf8Size '$' = 1 := rfl
      simp [dollarQuote, one]
      omega
    rw [← length]
    exact charsTo?_append _ _
  simp [dollarTag, first, digit, found, charsFrom?_append, whole]

theorem all_isNameChar_or (cs : List Char) :
    cs.all isNameChar = true ∨
      ∃ name d rest,
        cs = name ++ d :: rest ∧ name.all isNameChar = true ∧ isNameChar d = false := by
  induction cs with
  | nil => exact .inl rfl
  | cons c cs ih =>
    by_cases letter : isNameChar c = true
    · rcases ih with all | ⟨name, d, rest, rfl, all, stops⟩
      · exact .inl (by rw [List.all_cons, letter, all]; rfl)
      · exact .inr ⟨c :: name, d, rest, rfl, by rw [List.all_cons, letter, all]; rfl, stops⟩
    · exact .inr ⟨[], c, cs, rfl, rfl, by simpa using letter⟩

theorem dollarTag_of_not_isTag {cs : List Char}
    (h : ∀ name, IsTag name → ¬ dollarQuote name <+: '$' :: cs) :
    dollarTag ('$' :: cs) = some none := by
  have first : charsFrom? 1 ('$' :: cs) = some cs := charsFrom?_append ['$'] cs
  by_cases digit : cs.head?.any Char.isDigit = true
  · simp only [dollarTag, first, Option.bind_eq_bind, Option.bind_some, digit, ↓reduceIte]
    rfl
  rw [Bool.not_eq_true] at digit
  rcases all_isNameChar_or cs with all | ⟨name, d, rest, rfl, all, stops⟩
  · have none : findChar? (fun c => !isNameChar c) cs = none :=
      findChar?_eq_none fun d hd => by simp [List.all_eq_true.1 all d hd]
    simp only [dollarTag, first, Option.bind_eq_bind, Option.bind_some, digit, none]
    rfl
  · have found : findChar? (fun c => !isNameChar c) (name ++ d :: rest) = some (byteLength name) :=
      findChar?_append (fun e he => by simp [List.all_eq_true.1 all e he]) (by simp [stops]) rest
    have other : d ≠ '$' := by
      rintro rfl
      refine h name ⟨all, ?_⟩ ⟨rest, by simp [dollarQuote]⟩
      cases name with
      | nil => rfl
      | cons c name => exact digit
    simp only [dollarTag, first, Option.bind_eq_bind, Option.bind_some, digit, found,
      charsFrom?_append, List.head?_cons, Option.some.injEq, other]
    rfl

/-! ## Jumps over pieces -/

/-- A region is jumped over. -/
theorem jump_of_opening {opener closer : List Char} (opens : Opening opener closer)
    (before cs : List Char) :
    jump (before ++ (opener ++ cs)) (byteLength before) =
      some (match cut closer cs with
        | none => byteLength (before ++ (opener ++ cs))
        | some (body, _) => byteLength (before ++ (opener ++ body ++ closer))) := by
  have bytes := drop_utf8Bytes before (opener ++ cs)
  have stop := length_utf8Bytes (before ++ (opener ++ cs))
  unfold jump
  dsimp only
  rw [bytes, stop]
  cases opens with
  | single | double =>
    rw [List.singleton_append, utf8Bytes_ascii (by decide)]
    dsimp only
    rw [if_pos (by decide), idxOf?_utf8Bytes (by decide), find?_eq]
    generalize cut [_] cs = found
    cases found with
    | none => rfl
    | some split =>
      simp (disch := decide) [utf8Size_of_ascii]
      omega
  | lineComment =>
    have second : (utf8Bytes ('-' :: cs)).head? = some (byteOf '-') :=
      (head?_utf8Bytes_eq_some_iff (by decide) _).2 rfl
    have hyphens : cut ['\n'] ('-' :: '-' :: cs) =
        (cut ['\n'] cs).map fun split => ('-' :: '-' :: split.1, split.2) :=
      @cut_append _ ['-', '-'] cs (by simp +contextual [List.suffix_cons_iff])
    rw [List.cons_append, List.singleton_append, utf8Bytes_ascii (c := '-') (by decide)]
    dsimp only
    rw [if_neg (by decide), if_pos ⟨rfl, second⟩, ← utf8Bytes_ascii (by decide),
      idxOf?_utf8Bytes (by decide), find?_eq, hyphens]
    cases cut ['\n'] cs with
    | none => rfl
    | some split =>
      simp (disch := decide) [utf8Size_of_ascii]
      omega
  | blockComment =>
    have second : (utf8Bytes ('*' :: cs)).head? = some (byteOf '*') :=
      (head?_utf8Bytes_eq_some_iff (by decide) _).2 rfl
    have inside : charsFrom? (byteLength before + 2) (before ++ ('/' :: '*' :: cs)) = some cs := by
      have split := charsFrom?_append (before ++ ['/', '*']) cs
      simpa (disch := decide) [utf8Size_of_ascii] using split
    rw [List.cons_append, List.singleton_append, utf8Bytes_ascii (c := '/') (by decide)]
    dsimp only
    rw [if_neg (by decide), if_neg fun both => absurd both.1 (by decide), if_pos ⟨rfl, second⟩,
      inside]
    simp only [Option.bind_eq_bind, Option.bind_some, find?_eq]
    cases cut ['*', '/'] cs with
    | none => rfl
    | some split =>
      simp (disch := decide) [utf8Size_of_ascii]
      omega
  | @dollar name tag =>
    have whole : charsFrom? (byteLength before) (before ++ (dollarQuote name ++ cs)) =
        some (dollarQuote name ++ cs) := charsFrom?_append _ _
    have inside : charsFrom? (byteLength before + byteLength (dollarQuote name))
        (before ++ (dollarQuote name ++ cs)) = some cs := by
      have split := charsFrom?_append (before ++ dollarQuote name) cs
      simpa using split
    have first : utf8Bytes (dollarQuote name ++ cs) =
        byteOf '$' :: utf8Bytes (name ++ ['$'] ++ cs) := by
      rw [← utf8Bytes_ascii (by decide)]
      simp [dollarQuote]
    rw [first]
    dsimp only
    rw [if_neg (by decide), if_neg fun both => absurd both.1 (by decide),
      if_neg fun both => absurd both.1 (by decide), if_pos rfl, whole]
    simp only [Option.bind_eq_bind, Option.bind_some, dollarTag_of_isTag tag, inside, find?_eq]
    cases cut (dollarQuote name) cs with
    | none => rfl
    | some split =>
      simp
      omega

/-- A byte of a character that is not an ASCII character is stepped over. -/
theorem jump_of_high {sql : List Char} {i : Nat} {b : UInt8} {behind : List UInt8}
    (bytes : (utf8Bytes sql).drop i = b :: behind) (high : 128 ≤ b.toNat) :
    jump sql i = some (i + 1) := by
  have other (d : Char) (hd : d.toNat < 128) : ¬ b = byteOf d := ne_byteOf high hd
  simp [jump, bytes, other]

/-- An ASCII character at which no region opens is stepped over. -/
theorem jump_of_plain {c : Char} {cs : List Char} (ascii : c.toNat < 128)
    (plain : ∀ opener closer, Opening opener closer → ¬ opener <+: c :: cs) (before : List Char) :
    jump (before ++ c :: cs) (byteLength before) = some (byteLength before + 1) := by
  have bytes := drop_utf8Bytes before (c :: cs)
  rw [utf8Bytes_ascii ascii] at bytes
  have other {opener closer : List Char} (opens : Opening opener closer) {d : Char}
      (hd : d.toNat < 128) (first : opener = [d]) : byteOf c ≠ byteOf d := by
    rw [Ne, byteOf_inj ascii hd]
    rintro rfl
    exact plain opener closer opens (by simp [first])
  have other₂ {opener closer : List Char} (opens : Opening opener closer) {d e : Char}
      (hd : d.toNat < 128) (he : e.toNat < 128) (both : opener = [d, e]) :
      ¬ (byteOf c = byteOf d ∧ (utf8Bytes cs).head? = some (byteOf e)) := by
    rw [byteOf_inj ascii hd, head?_utf8Bytes_eq_some_iff he]
    rintro ⟨rfl, second⟩
    obtain ⟨rest, rfl⟩ := List.head?_eq_some_iff.1 second
    exact plain opener closer opens (by simp [both])
  unfold jump
  dsimp only
  rw [bytes]
  dsimp only
  rw [if_neg (not_or_intro (other .single (by decide) rfl) (other .double (by decide) rfl)),
    if_neg (other₂ .lineComment (by decide) (by decide) rfl),
    if_neg (other₂ .blockComment (by decide) (by decide) rfl)]
  by_cases dollar : c = '$'
  · subst dollar
    rw [if_pos rfl, charsFrom?_append]
    simp only [Option.bind_eq_bind, Option.bind_some,
      dollarTag_of_not_isTag fun name tag => plain _ _ (.dollar tag)]
    rfl
  · rw [if_neg (by rwa [byteOf_inj ascii (by decide)])]

/-! ## The whole scan -/

theorem scanFrom_of_jump {sql : List Char} {i next : Nat} {b : UInt8} {behind : List UInt8}
    (bytes : (utf8Bytes sql).drop i = b :: behind) (found : jump sql i = some next) :
    scanFrom sql i = (scanFrom sql next).map fun marks =>
      if b = byteOf '?' then i :: marks else marks := by
  have inside : i < (utf8Bytes sql).length := by
    have length := congrArg List.length bytes
    simp only [List.length_drop, List.length_cons] at length
    omega
  rw [scanFrom, if_pos inside, bytes]
  split
  · rename_i none
    rw [found] at none
    cases none
  · rename_i some
    rw [found] at some
    cases some
    simp

/-- The bytes of a character that is not an ASCII character are stepped over one by one. -/
theorem scanFrom_of_high {sql : List Char} {i : Nat} {bs behind : List UInt8}
    (bytes : (utf8Bytes sql).drop i = bs ++ behind) (high : ∀ b ∈ bs, 128 ≤ b.toNat) :
    scanFrom sql i = scanFrom sql (i + bs.length) := by
  induction bs generalizing i with
  | nil => rfl
  | cons b bs ih =>
    obtain ⟨hb, rest⟩ := List.forall_mem_cons.1 high
    have next : (utf8Bytes sql).drop (i + 1) = bs ++ behind := by
      rw [← List.drop_drop, bytes]
      rfl
    rw [scanFrom_of_jump bytes (jump_of_high bytes hb), ih next rest, List.length_cons]
    simp [ne_byteOf hb (d := '?') (by decide), Nat.add_assoc, Nat.add_comm 1]

theorem scanFrom_length (sql : List Char) : scanFrom sql (byteLength sql) = some [] := by
  rw [scanFrom, if_neg (by simp)]

/-- An opener begins with a byte that is no question mark. -/
theorem Opening.utf8Bytes {opener closer : List Char} (h : Opening opener closer)
    (cs : List Char) :
    ∃ b behind, utf8Bytes (opener ++ cs) = b :: behind ∧ b ≠ byteOf '?' := by
  cases h with
  | single | double | lineComment | blockComment | dollar =>
    exact ⟨_, _, utf8Bytes_ascii (by decide) _, by decide⟩

/-- A region is skipped. -/
theorem scanFrom_of_opening {opener closer : List Char} (opens : Opening opener closer)
    (before cs : List Char) :
    scanFrom (before ++ (opener ++ cs)) (byteLength before) =
      match cut closer cs with
      | none => some []
      | some (body, _) =>
        scanFrom (before ++ (opener ++ cs))
          (byteLength (before ++ (opener ++ body ++ closer))) := by
  obtain ⟨b, behind, bytes, other⟩ := opens.utf8Bytes cs
  rw [scanFrom_of_jump ((drop_utf8Bytes _ _).trans bytes) (jump_of_opening opens before cs)]
  simp only [other, ↓reduceIte, Option.map_id_fun', id_eq]
  cases cut closer cs with
  | none => exact scanFrom_length _
  | some split => rfl

/-- From between two characters on the scan finds the single question marks. -/
theorem scanFrom_of_divides {cs : List Char} {ps : List Piece} (h : Divides cs ps)
    (before : List Char) :
    scanFrom (before ++ cs) (byteLength before) = some (marks (byteLength before) ps) := by
  induction h generalizing before with
  | nil =>
    rw [List.append_nil]
    exact scanFrom_length before
  | @closed opener body closer cs ps opens closes rest ih =>
    have first := cut_of_closes opens.closer_ne_nil closes cs
    have next := ih (before ++ (opener ++ body ++ closer))
    have text : before ++ (opener ++ body ++ closer ++ cs) =
        before ++ (opener ++ (body ++ closer ++ cs)) := by simp
    rw [List.append_assoc before, text] at next
    rw [text, scanFrom_of_opening opens, first]
    dsimp only
    rw [next, byteLength_append before]
    rfl
  | @unclosed opener body closer opens never =>
    rw [scanFrom_of_opening opens, (cut_eq_none_iff opens.closer_ne_nil).2 never]
    rfl
  | @single c cs ps plain rest ih =>
    have next := ih (before ++ [c])
    rw [List.append_assoc, List.singleton_append, byteLength_append, byteLength_cons,
      byteLength_nil, Nat.add_zero] at next
    have single : marks (byteLength before) (.single c :: ps) =
        if c = '?' then byteLength before :: marks (byteLength before + c.utf8Size) ps
        else marks (byteLength before + c.utf8Size) ps := by
      simp [marks, Piece.text]
    have bytes := drop_utf8Bytes before (c :: cs)
    by_cases ascii : c.toNat < 128
    · rw [utf8Bytes_ascii ascii] at bytes
      rw [utf8Size_of_ascii ascii] at next single
      rw [scanFrom_of_jump bytes (jump_of_plain ascii plain before), next, single]
      simp only [byteOf_inj ascii (d := '?') (by decide), Option.map_some]
    · have other : c ≠ '?' := by
        rintro rfl
        exact ascii (by decide)
      rw [scanFrom_of_high bytes (high_of_not_ascii ascii), String.length_utf8EncodeChar, next,
        single, if_neg other]

/-- Every text falls into pieces in one way. The scan by bytes goes through it to its end with every
cut between two characters, and finds in ascending order the byte offsets of the question marks that
are pieces by themselves. -/
theorem scanFrom_eq_placeholderOffsets (sql : String) :
    (∃! ps, Divides sql.toList ps) ∧
      ∃ ps, Divides sql.toList ps ∧ ps.flatMap Piece.text = sql.toList ∧
        scanFrom sql.toList 0 = some (placeholderOffsets sql) ∧
        (placeholderOffsets sql).Pairwise (· < ·) ∧
        ∀ i, i ∈ placeholderOffsets sql ↔
          ∃ before after, ps = before ++ .single '?' :: after ∧
            i = byteLength (before.flatMap Piece.text) := by
  obtain ⟨ps, h, one⟩ := existsUnique_divides sql.toList
  have found : placeholderOffsets sql = marks 0 ps := offsetsFrom_eq_marks h 0
  refine ⟨⟨ps, h, one⟩, ps, h, h.text, ?_, pairwise_offsetsFrom _ _ _, fun i => ?_⟩
  · rw [found]
    exact scanFrom_of_divides h []
  · rw [found, mem_marks_iff]
    simp only [Nat.zero_add]

/-- Characters of several bytes inside and outside of regions, a comment opener in quotes, and a tag
that is not closed. -/
theorem scanFrom_mixedText :
    scanFrom "é=? '--' $ü$?$$?$ü$ /*'*/? $a$?".toList 0 = some [3, 28] := by
  obtain ⟨-, ps, -, -, scan, -⟩ := scanFrom_eq_placeholderOffsets "é=? '--' $ü$?$$?$ü$ /*'*/? $a$?"
  exact scan.trans (by decide)

end DataMapper.Sql
