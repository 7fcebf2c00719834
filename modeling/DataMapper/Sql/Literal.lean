import DataMapper.Value.Basic

/-!
# Literals

Values written into the text of a statement. Numbers and truth values stand bare; everything else
stands between single quotes, with each single quote inside written twice.
-/

namespace DataMapper.Sql

open Number

def quoteChar (c : Char) : List Char :=
  if c = '\'' then ['\'', '\''] else [c]

/-- The characters between single quotes. -/
def quoted (cs : List Char) : List Char :=
  '\'' :: cs.flatMap quoteChar ++ ['\'']

def quoteLiteral (s : String) : String := String.ofList (quoted s.toList)

/-- Two upper-case hexadecimal digits. -/
def upperHex (b : UInt8) : List Char :=
  [(Nat.digitChar (b.toNat / 16)).toUpper, (Nat.digitChar (b.toNat % 16)).toUpper]

def literalChars : Value → List Char
  | .null => "NULL".toList
  | .bool true => "TRUE".toList
  | .bool false => "FALSE".toList
  | .int n => Json.integerChars n.toInt
  | .float x =>
    let cs := (plainLayout.text x).toList
    if x.isFinite then cs else quoted cs
  | .decimal d => d.chars
  | .char c => quoted [c]
  | .text s | .enumName s => quoted s.toList
  | .bytes bs => 'X' :: '\'' :: bs.flatMap upperHex ++ ['\'']
  | .date d => quoted d.chars
  | .time t => quoted t.chars
  | .timestamp t => quoted (t.chars ' ')
  | .timestampUtc t => quoted (t.chars ' ' ++ "+00:00".toList)
  | .uuid u => quoted u.text.toList
  | .json j => quoted j.chars
  | .serverNow => "CURRENT_TIMESTAMP".toList

/-- The text of a value in a statement. The time of the database is the standard expression for
it. -/
def renderLiteral (v : Value) : String := String.ofList (literalChars v)

end DataMapper.Sql
