import DataMapper.Query.Fragment

/-!
# Laws of fragments

Fragments are put behind each other with nothing between them or with a separator. Their texts and
their parameters are put together alike, each in the order of the fragments.

## Main definitions

* `Fragment.string` — the text of a fragment as a string.
-/

namespace DataMapper

open Sql

namespace Fragment

/-! ## One behind the other -/

theorem append_empty (a : Fragment) : a ++ empty = a := by
  cases a
  simp only [HAppend.hAppend, Append.append, append, empty]
  simp

theorem append_assoc (a b c : Fragment) : a ++ b ++ c = a ++ (b ++ c) := by
  cases a
  simp only [HAppend.hAppend, Append.append, append]
  simp

/-! ## With a separator -/

variable (s : Fragment)

@[simp] theorem join_singleton (a : Fragment) : join s [a] = a := rfl

theorem join_cons (a : Fragment) {as : List Fragment} (ne : as ≠ []) :
    join s (a :: as) = a ++ s ++ join s as := by
  cases as with
  | nil => exact absurd rfl ne
  | cons => rfl

theorem join_concat {as : List Fragment} (ne : as ≠ []) (a : Fragment) :
    join s (as ++ [a]) = join s as ++ s ++ a := by
  induction as with
  | nil => exact absurd rfl ne
  | cons b bs ih =>
    cases bs with
    | nil => rfl
    | cons c cs =>
      rw [List.cons_append, join_cons s b (by simp), ih (by simp), join_cons s b (by simp)]
      simp only [append_assoc]

theorem text_join (as : List Fragment) :
    (join s as).text = s.text.intercalate (as.map Fragment.text) := by
  induction as with
  | nil => rfl
  | cons a as ih =>
    cases as with
    | nil => simp
    | cons b bs =>
      rw [join_cons s a (by simp), text_append, text_append, ih]
      simp only [List.map_cons, List.intercalate_cons_cons]

/-- Fragments that are not empty make up one that is not. -/
theorem isEmpty_join {as : List Fragment} (solid : ∀ a ∈ as, a.isEmpty = false) :
    (join s as).isEmpty = as.isEmpty := by
  cases as with
  | nil => rfl
  | cons a as =>
    have first := solid a List.mem_cons_self
    cases as with
    | nil => exact first
    | cons => simp_all [join, isEmpty]

/-- A separator without placeholders adds no parameters. -/
theorem parameters_join {s : Fragment} (none : s.parameters = []) (as : List Fragment) :
    (join s as).parameters = as.flatMap Fragment.parameters := by
  induction as with
  | nil => rfl
  | cons a as ih =>
    cases as with
    | nil => simp
    | cons b bs =>
      rw [join_cons s a (by simp), parameters_append, parameters_append, none, ih, List.append_nil]
      rfl

/-! ## Values -/

/-- A value is a placeholder with its parameter, its literal, or the name of what has none. -/
theorem ofValue_forms (o : BuildOptions) (v : Value) :
    ofValue o v = ⟨['?'], [v]⟩ ∨ ofValue o v = ofText (literalChars v) ∨
      ofValue o v = ofString "NULL" ∨ ofValue o v = ofString o.dialect.currentTimestamp := by
  have other {a : Fragment} (h : a = if o.inlineLiterals && v.isSimple then ofText (literalChars v)
      else if o.parameterized then ⟨['?'], [v]⟩ else ofText (literalChars v)) :
      a = ⟨['?'], [v]⟩ ∨ a = ofText (literalChars v) := by
    split at h
    · exact .inr h
    · split at h
      · exact .inl h
      · exact .inr h
  cases v with
  | null => exact .inr (.inr (.inl rfl))
  | serverNow => exact .inr (.inr (.inr rfl))
  | bool | int | float | decimal | char | text | bytes | date | time | timestamp | timestampUtc
  | uuid | json | enumName => exact (other rfl).imp_right .inl

/-! ## Strings -/

/-- The text of a fragment as a string. -/
def string (a : Fragment) : String := String.ofList a.text

@[simp] theorem string_append (a b : Fragment) : (a ++ b).string = a.string ++ b.string :=
  String.ofList_append

@[simp] theorem string_ofString (s : String) : (ofString s).string = s := String.ofList_toList

theorem string_join (s : Fragment) (as : List Fragment) :
    (join s as).string = s.string.intercalate (as.map string) := by
  rw [string, text_join, ← String.toList_inj, String.toList_ofList, String.toList_intercalate,
    List.map_map, string, String.toList_ofList]
  refine congrArg _ (List.map_congr_left fun a _ => ?_)
  exact String.toList_ofList.symm

end Fragment

end DataMapper
