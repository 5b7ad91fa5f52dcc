/-! The kinds of columns that the tables use, and what a column of each kind holds. -/

namespace WireDictionary

inductive ColumnKind where
  | text
  | integer
  /-- A number that may announce its base. -/
  | literal
  /-- A decimal number that is a flag: zero is false, all else true. -/
  | flag
  /-- A decimal number, or nothing: the column may be blank or missing. -/
  | optionalInteger
  /-- A flag, or nothing. -/
  | optionalFlag
  deriving DecidableEq, Repr

abbrev ColumnKind.Cell : ColumnKind → Type
  | text => String
  | integer => Int64
  | literal => Int64
  | flag => Bool
  | optionalInteger => Option Int64
  | optionalFlag => Option Bool

def ColumnKind.isRequired : ColumnKind → Bool
  | optionalInteger => false
  | optionalFlag => false
  | _ => true

/-- What the first columns of a line hold, one cell for each kind. -/
abbrev Cells : List ColumnKind → Type
  | [] => Unit
  | kind :: kinds => kind.Cell × Cells kinds

end WireDictionary
