import WireDictionary.Row.Basic

/-! Rows written as lines. Every text stands between double quotes, so that it may hold separators
and blanks; a missing value leaves its column empty. -/

namespace WireDictionary

/-- How the number in a literal column is spelled. -/
inductive Spelling where
  | decimal
  | hexadecimal
  deriving DecidableEq, Repr

def Spelling.literal : Spelling → Int64 → String
  | decimal => Numeral.decimal
  | hexadecimal => Numeral.hexadecimal 1

def flagText (b : Bool) : String := if b then "1" else "0"

/-- A column of the given kind, by what it holds. -/
def ColumnKind.written (spelling : Spelling) : (kind : ColumnKind) → kind.Cell → String
  | .text, s => String.ofList ('"' :: s.toList ++ ['"'])
  | .integer, v => Numeral.decimal v
  | .literal, v => spelling.literal v
  | .flag, b => flagText b
  | .optionalInteger, v? => (v?.map Numeral.decimal).getD ""
  | .optionalFlag, b? => (b?.map flagText).getD ""

/-- The columns of a line, by what they hold. -/
def Cells.written (spelling : Spelling) : (kinds : List ColumnKind) → Cells kinds → List String
  | [], _ => []
  | kind :: kinds, (cell, cells) => kind.written spelling cell :: written spelling kinds cells

def Row.line {K R : Type} [Row K R] (spelling : Spelling) (row : R) : String :=
  String.intercalate (String.singleton Column.separator)
    (Cells.written spelling (Row.layout R) (Row.toCells row))

theorem Cells.length_written (spelling : Spelling) (kinds : List ColumnKind) (cells : Cells kinds) :
    (written spelling kinds cells).length = kinds.length := by
  induction kinds with
  | nil => rfl
  | cons kind kinds ih => simp [written, ih]

end WireDictionary
