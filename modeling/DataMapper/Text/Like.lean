import DataMapper.Text.Blank

/-!
# LIKE patterns

The pattern that finds the words of a phrase in their order anywhere in a column.
-/

namespace DataMapper.Text

/-- A character that stands for itself in a pattern. -/
def escapeLikeChar (c : Char) : List Char :=
  if c = '\\' ∨ c = '%' ∨ c = '_' then ['\\', c] else [c]

def escapeLike (cs : List Char) : List Char :=
  cs.flatMap escapeLikeChar

/-- Each word, escaped and followed by a percent sign. -/
def likeTail : List (List Char) → List Char
  | [] => []
  | w :: ws => escapeLike w ++ '%' :: likeTail ws

/-- A percent sign before, between and after the escaped words of the text; two of them where the
text has no word. -/
def likePattern (text : String) : String :=
  match words text.toList with
  | [] => "%%"
  | ws => String.ofList ('%' :: likeTail ws)

end DataMapper.Text
