import WireDictionary.Column.Cursor
import WireDictionary.Row.Key

/-! Rows of the dictionary tables. Each type of row says which file its table is kept in, which
columns a line of that file has, and how the row follows from what the columns hold. Reading a line
is the same for all of them. -/

namespace WireDictionary

inductive LineFault where
  /-- The line lacks a column that it must have. -/
  | short
  | column (error : ColumnError)
  deriving DecidableEq, Repr

/-- A type of row. `toCells` gives the cells that a row is written in. -/
class Row (K : outParam Type) (R : Type) where
  file : String
  /-- The columns of a line. Columns behind these are ignored. -/
  layout : List ColumnKind
  ofCells : Cells layout → R
  toCells : R → Cells layout
  /-- What tells the row apart from the other rows of its table. -/
  key : R → K
  /-- The key as messages write it. -/
  keyText : R → String
  /-- The name by which the row is looked up. -/
  name : R → String

namespace Row

variable {K : Type}

def minColumns (R : Type) [Row K R] : Nat := (layout R).countP ColumnKind.isRequired

/-- Reads a line. It is not looked at beyond its columns' count when there are too few of them. -/
def parse (R : Type) [Row K R] (line : String) : Except LineFault R :=
  let cursor := Cursor.ofLine line
  if cursor.size < minColumns R then .error .short
  else
    match (Cursor.cells (layout R)).run cursor with
    | .ok cells _ => .ok (ofCells cells)
    | .error e _ => .error (.column e)

end Row

def withoutQuotes (text : String) : String := String.ofList (text.toList.filter (· != '"'))

end WireDictionary
