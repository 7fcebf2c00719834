import DataMapper.Text.LetterCase
import DataMapper.Value.Basic

/-!
# Result rows

The cells of one row of a result, each with the name of its column, in the order of the result.
-/

namespace DataMapper

open Text

structure Row where
  cells : List (String × Value)
  deriving Inhabited

namespace Row

def columns (r : Row) : List String := r.cells.map (·.1)

def values (r : Row) : List Value := r.cells.map (·.2)

def size (r : Row) : Nat := r.cells.length

def isEmpty (r : Row) : Bool := r.cells.isEmpty

/-- The first cell whose column has this name; the case of ASCII letters does not count. -/
def get? (r : Row) (column : String) : Option Value :=
  (r.cells.find? fun c => sameName c.1 column).map (·.2)

def getIndex? (r : Row) (i : Nat) : Option Value := (r.cells[i]?).map (·.2)

end Row

end DataMapper
