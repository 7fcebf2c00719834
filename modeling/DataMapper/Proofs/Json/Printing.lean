import DataMapper.Json.Reader
import DataMapper.Proofs.Field.Maps
import DataMapper.Proofs.Number.Digits
import DataMapper.Proofs.Text.Hexadecimal

/-!
# JSON that is read back from its text

What is written for a value is read as that value: strings character by character, integers digit
by digit, arrays and objects by induction on the value, with a step of fuel for every bracket and
every comma.

## Main definitions

* `Json.IsReadable` — the values that the reader has room for.

## Main statements

* `Json.read_chars` — a readable value comes back from its text.
-/

namespace DataMapper

open Number Text

/-! ## Numbers -/

/-- Nothing here goes on with a number that stands before it. -/
def EndsNumber (rest : List Char) : Prop :=
  ∀ c cs, rest = c :: cs → c.isDigit = false ∧ c ≠ '.' ∧ c ≠ 'e' ∧ c ≠ 'E'

theorem endsNumber_nil : EndsNumber [] := fun _ _ same => by cases same

theorem endsNumber_cons {c : Char} {cs : List Char}
    (h : c.isDigit = false ∧ c ≠ '.' ∧ c ≠ 'e' ∧ c ≠ 'E') : EndsNumber (c :: cs) :=
  fun _ _ same => by cases same; exact h

namespace JsonNumber

theorem takeDigits_of_endsNumber {rest : List Char} (ends : EndsNumber rest) (n : Nat) :
    takeDigits n rest = (n, rest) := by
  cases rest with
  | nil => rfl
  | cons c cs => simp [takeDigits, digit?, (ends c cs rfl).1]

theorem takeDigits_append {ds rest : List Char} {n : Nat} (digits : ∀ c ∈ ds, c.isDigit = true)
    (fits : Nat.ofDigitChars 10 ds n < 2 ^ 64) (ends : EndsNumber rest) :
    takeDigits n (ds ++ rest) = (Nat.ofDigitChars 10 ds n, rest) := by
  induction ds generalizing n with
  | nil => exact takeDigits_of_endsNumber ends n
  | cons d ds ih =>
    have digit := digits d (by simp)
    rw [Nat.ofDigitChars_cons, Nat.mul_comm] at fits
    have grows : n * 10 + (d.toNat - '0'.toNat) < 2 ^ 64 := by
      rw [Nat.ofDigitChars_eq_ofDigitChars_zero] at fits
      have := Nat.le_mul_of_pos_left (n * 10 + (d.toNat - '0'.toNat))
        (Nat.pow_pos (n := ds.length) (by decide : 0 < 10))
      omega
    rw [List.cons_append, takeDigits, digit?, if_pos digit]
    simp only [if_pos grows]
    rw [ih (fun c mem => digits c (by simp [mem])) fits, Nat.ofDigitChars_cons, Nat.mul_comm 10]

theorem readPower_of_endsNumber {rest : List Char} (ends : EndsNumber rest) :
    readPower rest = some (0, rest) := by
  cases rest with
  | nil => rfl
  | cons c cs =>
    obtain ⟨-, -, small, great⟩ := ends c cs rfl
    rw [readPower, if_neg (by simp [small, great])]

/-- Without places and without a power of ten a number is whole. -/
theorem readRest_of_endsNumber {rest : List Char} (ends : EndsNumber rest) (negative : Bool)
    (n : Nat) :
    readRest negative n rest =
      if !negative then some (.integer n, rest)
      else if 0 < n && n ≤ 2 ^ 63 then some (.integer (-n), rest)
      else some (.float (Binary.ofInt n : Double).neg, rest) := by
  have none : rest.takeWhile Char.isDigit = [] ∧ rest.dropWhile Char.isDigit = rest := by
    cases rest with
    | nil => exact ⟨rfl, rfl⟩
    | cons c cs => simp [(ends c cs rfl).1]
  have power := readPower_of_endsNumber ends
  unfold readRest
  rw [none.1, none.2]
  split
  · next cs => exact absurd rfl (ends '.' cs rfl).2.1
  · simp only [power, Option.bind_eq_bind, Option.bind_some]
    simp

theorem toDigits_head {n : Nat} (pos : 0 < n) :
    ∃ d ds, Nat.toDigits 10 n = d :: ds ∧ d.isDigit = true ∧ d ≠ '0' := by
  induction n using Nat.strongRecOn with
  | ind n ih =>
    by_cases single : n < 10
    · have digit : ∀ n < 10, 0 < n → n.digitChar.isDigit = true ∧ n.digitChar ≠ '0' := by decide
      exact ⟨n.digitChar, [], Nat.toDigits_of_lt_base single, digit n single pos⟩
    · obtain ⟨d, ds, digits, digit, nonzero⟩ := ih (n / 10) (by omega) (by omega)
      refine ⟨d, ds ++ [(n % 10).digitChar], ?_, digit, nonzero⟩
      rw [Nat.toDigits_of_base_le (by decide) (by omega), digits, List.cons_append]

/-- The digits of a number are read as the number. -/
theorem read_digits {n : Nat} (fits : n < 2 ^ 64) {rest : List Char} (ends : EndsNumber rest) :
    read (Nat.toDigits 10 n ++ rest) = readRest false n rest ∧
      read ('-' :: (Nat.toDigits 10 n ++ rest)) = readRest true n rest := by
  by_cases pos : 0 < n
  · obtain ⟨d, ds, digits, digit, nonzero⟩ := toDigits_head pos
    have taken : takeDigits 0 (d :: (ds ++ rest)) = (n, rest) := by
      have all : ∀ c ∈ Nat.toDigits 10 n, c.isDigit = true := fun _ =>
        isDigit_of_mem_toDigits
      have := takeDigits_append (n := 0) all (by rwa [Nat.ofDigitChars_ten_toDigits]) ends
      rwa [Nat.ofDigitChars_ten_toDigits, digits] at this
    have minus : d ≠ '-' := by rintro rfl; cases digit
    rw [digits, List.cons_append]
    constructor
    · simp [read, minus, nonzero, digit, taken]
    · simp [read, nonzero, digit, taken]
  · obtain rfl : n = 0 := by omega
    rw [Nat.toDigits_zero]
    cases rest with
    | nil => exact ⟨rfl, rfl⟩
    | cons c cs => simp [read, (ends c cs rfl).1]

end JsonNumber

namespace Json

/-! ## Strings -/

theorem readUnicode_small {n : Nat} (small : n < 0x20) (cs : List Char) :
    readUnicode ('0' :: '0' :: Nat.digitChar (n / 16) :: Nat.digitChar (n % 16) :: cs) =
      some (Char.ofNat n, cs) := by
  have zero : hexValue? '0' = some 0 := by decide
  have high := hexValue?_digitChar (n := n / 16) (by omega)
  have low := hexValue?_digitChar (n := n % 16) (by omega)
  have whole : ((0 * 16 + 0) * 16 + n / 16) * 16 + n % 16 = n := by omega
  simp only [readUnicode, readUnit, zero, high, low, Option.bind_eq_bind, Option.bind_some, whole]
  simp
  omega

theorem readString_escapeChar (fuel : Nat) (c : Char) (cs : List Char) :
    readString (fuel + 1) (escapeChar c ++ cs) =
      (readString fuel cs).map fun (s, rest) => (c :: s, rest) := by
  unfold escapeChar
  split
  case h_8 quote backslash b f n r t =>
    split
    · next small =>
      simp [readString, readUnicode_small small]
      cases readString fuel cs <;> simp
    · next plain =>
      have unquoted : c ≠ '"' := quote
      have unescaped : c ≠ '\\' := backslash
      simp only [List.singleton_append, readString, if_neg unquoted, if_neg plain,
        if_neg unescaped]
      cases readString fuel cs <;> rfl
  all_goals
    simp [readString, simpleEscape?]
    cases readString fuel cs <;> simp

theorem length_escapeChar_pos (c : Char) : 0 < (escapeChar c).length := by
  unfold escapeChar
  split
  case h_8 => split <;> simp
  all_goals simp

theorem length_le_flatMap_escapeChar (s : List Char) :
    s.length ≤ (s.flatMap escapeChar).length := by
  induction s with
  | nil => simp
  | cons c s ih =>
    have := length_escapeChar_pos c
    simp only [List.flatMap_cons, List.length_append, List.length_cons]
    omega

/-- The characters of a string are read one by one up to the closing quote. -/
theorem readString_quoted {s : List Char} {fuel : Nat} (enough : s.length < fuel)
    (rest : List Char) :
    readString fuel (s.flatMap escapeChar ++ '"' :: rest) = some (s, rest) := by
  induction s generalizing fuel with
  | nil =>
    obtain ⟨fuel, rfl⟩ := Nat.exists_eq_succ_of_ne_zero (by omega : fuel ≠ 0)
    simp [readString]
  | cons c s ih =>
    obtain ⟨fuel, rfl⟩ := Nat.exists_eq_succ_of_ne_zero (by omega : fuel ≠ 0)
    rw [List.flatMap_cons, List.append_assoc, readString_escapeChar, ih (by simpa using enough)]
    rfl

/-! ## Values -/

/-- A float that is read from its text, whatever follows. -/
def ReadsBack (x : Double) : Prop :=
  ∀ rest, EndsNumber rest →
    JsonNumber.read ((jsonLayout.text x).toList ++ rest) = some (float x, rest)

mutual

/-- The values that the reader has room for: integers of 64 bits, floats that are read back, and
at most so many arrays and objects inside one another. -/
def IsReadable : Nat → Json → Prop
  | _, null | _, bool _ | _, string _ => True
  | _, integer n => -2 ^ 63 ≤ n ∧ n < 2 ^ 64
  | _, float x => ReadsBack x
  | 0, array _ | 0, object _ => False
  | depth + 1, array items => AreReadable depth items
  | depth + 1, object members => Ascending members ∧ MembersReadable depth members

def AreReadable : Nat → List Json → Prop
  | _, [] => True
  | depth, item :: items => IsReadable depth item ∧ AreReadable depth items

def MembersReadable : Nat → List (String × Json) → Prop
  | _, [] => True
  | depth, (_, v) :: members => IsReadable depth v ∧ MembersReadable depth members

end

/-- The characters that a value can begin with. -/
def IsStart (c : Char) : Prop :=
  c ∈ ['"', '[', '\x7b', 'n', 't', 'f', '-'] ∨ c.isDigit = true

theorem IsStart.ne {c d : Char} (start : IsStart c) (other : ¬ IsStart d) : c ≠ d := by
  rintro rfl
  exact other start

theorem not_isStart {c : Char}
    (h : c ∉ ['"', '[', '\x7b', 'n', 't', 'f', '-'] ∧ c.isDigit = false) : ¬ IsStart c := by
  rintro (marked | digit)
  · exact h.1 marked
  · rw [h.2] at digit
    cases digit

theorem skipBlanks_cons {c : Char} (solid : isJsonBlank c = false) (cs : List Char) :
    skipBlanks (c :: cs) = c :: cs := by
  rw [skipBlanks, List.dropWhile_cons, solid]
  rfl

theorem skipBlanks_of_isStart {c : Char} (start : IsStart c) (cs : List Char) :
    skipBlanks (c :: cs) = c :: cs := by
  have solid : isJsonBlank c = false := by
    simp [isJsonBlank, start.ne (not_isStart (c := ' ') (by decide)),
      start.ne (not_isStart (c := '\n') (by decide)),
      start.ne (not_isStart (c := '\t') (by decide)),
      start.ne (not_isStart (c := '\r') (by decide))]
  exact skipBlanks_cons solid cs

theorem exists_start_of_readNumber {cs : List Char} {p : Json × List Char}
    (read : JsonNumber.read cs = some p) :
    ∃ c rest, cs = c :: rest ∧ (c = '-' ∨ c.isDigit = true) := by
  cases cs with
  | nil => cases read
  | cons c cs =>
    refine ⟨c, cs, rfl, ?_⟩
    by_cases minus : c = '-'
    · exact .inl minus
    · refine .inr ?_
      by_cases zero : c = '0'
      · rw [zero]
        rfl
      · cases digit : c.isDigit with
        | true => rfl
        | false => simp [JsonNumber.read, minus, zero, digit] at read

/-- What is read as a number is read as a value. -/
theorem readValue_of_readNumber {cs : List Char} {p : Json × List Char}
    (read : JsonNumber.read cs = some p) (depth fuel : Nat) :
    readValue depth (fuel + 1) cs = some p := by
  obtain ⟨c, rest, rfl, number⟩ := exists_start_of_readNumber read
  have start : IsStart c := number.imp_left fun minus => by simp [minus]
  rw [readValue, skipBlanks_of_isStart start]
  split
  all_goals first
    | exact read
    | next same =>
      obtain ⟨rfl, -⟩ := List.cons.inj same
      rcases number with other | other <;> cases other

/-- A value begins with a character that tells its kind. -/
theorem exists_start {j : Json} {depth : Nat} (readable : j.IsReadable depth) :
    ∃ c cs, j.chars = c :: cs ∧ IsStart c := by
  cases j with
  | null => exact ⟨_, _, rfl, .inl (by decide)⟩
  | bool b => cases b <;> exact ⟨_, _, rfl, .inl (by decide)⟩
  | integer n =>
    rw [chars, integerChars]
    split
    · exact ⟨_, _, rfl, .inl (by decide)⟩
    · have some_ : Nat.toDigits 10 n.natAbs ≠ [] := Nat.toDigits_ne_nil
      obtain ⟨d, ds, digits⟩ := List.exists_cons_of_ne_nil some_
      have mem : d ∈ Nat.toDigits 10 n.natAbs := by simp [digits]
      exact ⟨d, ds, digits, .inr (isDigit_of_mem_toDigits mem)⟩
  | float x =>
    have back : ReadsBack x := by cases depth <;> exact readable
    have read := back [] endsNumber_nil
    rw [List.append_nil] at read
    obtain ⟨c, cs, text, number⟩ := exists_start_of_readNumber read
    exact ⟨c, cs, text, number.imp_left fun minus => by simp [minus]⟩
  | string s => exact ⟨_, _, rfl, .inl (by decide)⟩
  | array items => cases items <;> exact ⟨_, _, rfl, .inl (by decide)⟩
  | object members =>
    rcases members with _ | ⟨⟨k, v⟩, members⟩ <;> exact ⟨_, _, rfl, .inl (by decide)⟩

theorem readInteger_chars {n : Int} (low : -2 ^ 63 ≤ n) (high : n < 2 ^ 64) {rest : List Char}
    (ends : EndsNumber rest) :
    JsonNumber.read (integerChars n ++ rest) = some (integer n, rest) := by
  rw [integerChars]
  split
  · next negative =>
    have value : -(n.natAbs : Int) = n := by omega
    rw [List.cons_append, (JsonNumber.read_digits (by omega) ends).2,
      JsonNumber.readRest_of_endsNumber ends]
    simp only [Bool.not_true, Bool.false_eq_true, if_false, Bool.and_eq_true, decide_eq_true_eq]
    rw [if_pos ⟨by omega, by omega⟩, value]
  · next positive =>
    have value : (n.natAbs : Int) = n := by omega
    rw [(JsonNumber.read_digits (by omega) ends).1, JsonNumber.readRest_of_endsNumber ends, value]
    rfl

/-- What follows the items of an array ends a number. -/
theorem endsNumber_itemsChars (items : List Json) (rest : List Char) :
    EndsNumber (itemsChars items ++ rest) := by
  cases items <;> exact endsNumber_cons (by decide)

theorem endsNumber_membersChars (members : List (String × Json)) (rest : List Char) :
    EndsNumber (membersChars members ++ rest) := by
  rcases members with _ | ⟨⟨k, v⟩, members⟩ <;> exact endsNumber_cons (by decide)

theorem readValue_array {c : Char} (start : IsStart c) (depth fuel : Nat) (cs : List Char) :
    readValue (depth + 1) (fuel + 1) ('[' :: c :: cs) =
      (readItems depth fuel (c :: cs)).map fun (items, rest) => (array items, rest) := by
  have other : c ≠ ']' := start.ne (not_isStart (by decide))
  simp [readValue, skipBlanks_of_isStart (c := '[') (.inl (by decide)),
    skipBlanks_of_isStart start, other]

theorem readValue_object (depth fuel : Nat) (cs : List Char) :
    readValue (depth + 1) (fuel + 1) ('\x7b' :: '"' :: cs) =
      (readMembers depth fuel [] ('"' :: cs)).map fun (ms, rest) => (object ms, rest) := by
  simp [readValue, skipBlanks, isJsonBlank]

/-- A string is read where a value or the name of a member stands. -/
theorem readString_rest (s : String) (rest : List Char) :
    readString ((s.toList.flatMap escapeChar ++ '"' :: rest).length + 1)
      (s.toList.flatMap escapeChar ++ '"' :: rest) = some (s.toList, rest) := by
  refine readString_quoted ?_ rest
  have := length_le_flatMap_escapeChar s.toList
  rw [List.length_append]
  omega

mutual

/-- A readable value is read from its text, and what follows it is left. -/
theorem readValue_chars (j : Json) {depth : Nat} (fuel : Nat) (rest : List Char)
    (readable : j.IsReadable depth) (enough : 2 * j.chars.length ≤ fuel) (ends : EndsNumber rest) :
    readValue depth fuel (j.chars ++ rest) = some (j, rest) := by
  obtain ⟨c, cs, text, start⟩ := exists_start readable
  obtain ⟨fuel, rfl⟩ := Nat.exists_eq_succ_of_ne_zero (n := fuel) (by
    rw [text, List.length_cons] at enough
    omega)
  match j with
  | null => simp [chars, readValue, skipBlanks, isJsonBlank, skipLiteral]
  | bool b => cases b <;> simp [chars, readValue, skipBlanks, isJsonBlank, skipLiteral]
  | integer n =>
    have range : -2 ^ 63 ≤ n ∧ n < 2 ^ 64 := by cases depth <;> exact readable
    exact readValue_of_readNumber (readInteger_chars range.1 range.2 ends) depth fuel
  | float x =>
    have back : ReadsBack x := by cases depth <;> exact readable
    exact readValue_of_readNumber (back rest ends) depth fuel
  | string s =>
    simp only [chars, quoted, List.cons_append, List.append_assoc, List.nil_append, readValue,
      skipBlanks_of_isStart (c := '"') (.inl (by decide)), readString_rest]
    simp
  | array [] =>
    obtain _ | depth := depth
    · cases readable
    · simp [chars, readValue, skipBlanks, isJsonBlank]
  | array (item :: items) =>
    obtain _ | depth := depth
    · cases readable
    · have inner := readable.1
      obtain ⟨d, ds, first, opens⟩ := exists_start inner
      have read := readItems_chars item items fuel rest readable (by
        simp only [chars, List.length_cons, List.length_append] at enough ⊢
        omega)
      rw [first] at read
      rw [chars, List.cons_append, List.cons_append, first]
      simp only [List.cons_append] at read ⊢
      rw [readValue_array opens, read]
      rfl
  | object [] =>
    obtain _ | depth := depth
    · cases readable
    · simp [chars, readValue, skipBlanks, isJsonBlank]
  | object ((k, v) :: members) =>
    obtain _ | depth := depth
    · cases readable
    · have read := readMembers_chars k v members [] fuel rest readable.2
        readable.1 (by
          simp only [chars, List.length_cons, List.length_append] at enough ⊢
          omega)
      rw [chars]
      simp only [quoted, List.cons_append] at read ⊢
      rw [readValue_object, read]
      rfl
termination_by fuel
decreasing_by all_goals omega

/-- The items of an array, from the first one on. -/
theorem readItems_chars (item : Json) (items : List Json) {depth : Nat} (fuel : Nat)
    (rest : List Char)
    (readable : item.IsReadable depth ∧ AreReadable depth items)
    (enough : 2 * (item.chars ++ itemsChars items).length ≤ fuel) :
    readItems depth fuel (item.chars ++ itemsChars items ++ rest) = some (item :: items, rest) := by
  obtain ⟨inner, others⟩ := readable
  obtain ⟨c, cs, text, start⟩ := exists_start inner
  rw [List.length_append] at enough
  obtain ⟨fuel, rfl⟩ := Nat.exists_eq_succ_of_ne_zero (n := fuel) (by
    rw [text, List.length_cons] at enough
    omega)
  have step : 0 < (itemsChars items).length := by cases items <;> simp [itemsChars]
  have first := readValue_chars item fuel (itemsChars items ++ rest) inner
    (by omega) (endsNumber_itemsChars items rest)
  rw [List.append_assoc, readItems, first]
  match items with
  | [] => simp [itemsChars, skipBlanks, isJsonBlank]
  | next :: items =>
    have read := readItems_chars next items fuel rest others (by
      simp only [itemsChars, List.length_cons, List.length_append] at enough ⊢
      omega)
    rw [List.append_assoc] at read
    simp [itemsChars, skipBlanks, isJsonBlank, read]
termination_by fuel
decreasing_by all_goals omega

/-- The members of an object, from the first one on. -/
theorem readMembers_chars (k : String) (v : Json) (members before : List (String × Json))
    {depth : Nat} (fuel : Nat) (rest : List Char)
    (readable : v.IsReadable depth ∧ MembersReadable depth members)
    (sorted : Ascending (before ++ (k, v) :: members))
    (enough : 2 * (quoted k ++ ':' :: v.chars ++ membersChars members).length ≤ fuel) :
    readMembers depth fuel before (quoted k ++ ':' :: v.chars ++ membersChars members ++ rest) =
      some (before ++ (k, v) :: members, rest) := by
  obtain ⟨inner, others⟩ := readable
  simp only [quoted, List.length_append, List.length_cons] at enough
  obtain ⟨fuel, rfl⟩ := Nat.exists_eq_succ_of_ne_zero (n := fuel) (by omega)
  have value := readValue_chars v fuel (membersChars members ++ rest) inner
    (by omega) (endsNumber_membersChars members rest)
  have behind : ∀ e ∈ before, e.1 < k := fun e mem =>
    (List.pairwise_append.1 sorted).2.2 e mem (k, v) (by simp)
  have placed := insertKey_of_forall_lt behind v
  have name := readString_rest k (':' :: (v.chars ++ (membersChars members ++ rest)))
  simp only [quoted, List.cons_append, List.append_assoc, List.nil_append, readMembers,
    skipBlanks_cons (c := '"') (by decide), name, Option.bind_eq_bind, Option.bind_some,
    skipBlanks_cons (c := ':') (by decide), value, String.ofList_toList, placed]
  match members with
  | [] =>
    simp only [membersChars, List.cons_append, skipBlanks_cons (c := '\x7d') (by decide)]
    rfl
  | (l, w) :: members =>
    have read := readMembers_chars l w members (before ++ [(k, v)]) fuel rest
      others (by simpa using sorted) (by
        simp only [membersChars, quoted, List.length_cons, List.length_append] at enough ⊢
        omega)
    simp only [List.append_assoc, List.cons_append, List.nil_append] at read
    simp only [membersChars, List.append_assoc, List.cons_append,
      skipBlanks_cons (c := ',') (by decide)]
    exact read
termination_by fuel
decreasing_by all_goals omega

end

/-- A readable value comes back from its text. -/
theorem read_chars {j : Json} (readable : j.IsReadable maxDepth) : read j.chars = some j := by
  have whole := readValue_chars j (2 * j.chars.length + 2) [] readable (by omega) endsNumber_nil
  rw [List.append_nil] at whole
  rw [read, whole]
  rfl

end Json

end DataMapper
