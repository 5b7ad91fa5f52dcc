import WireDictionary.Row.Basic

/-! Fragments of structs. A struct is kept as one row for each of its members. -/

namespace WireDictionary

/-- What the value of a fragment stands for. -/
inductive Tag where
  | field
  | struct
  /-- Something of a known kind that refers to nothing, with the code of the kind. -/
  | unchecked (code : Int64)
  /-- Something of an unknown kind, with the code of the kind. -/
  | surprising (code : Int64)
  deriving DecidableEq, Repr

def Tag.ofCode (code : Int64) : Tag :=
  if code = 0 then field
  else if code = 1 then struct
  else if code = 2 ∨ code = 6 then unchecked code
  else surprising code

structure FragmentRow where
  /-- The struct that the member belongs to. -/
  id : Int64
  /-- The place of the member in its struct. -/
  order : Int64
  tagCode : Int64
  value : Int64
  name : String
  offset : Int64
  modType : Int64
  modValue : String
  deriving DecidableEq, Repr

def FragmentRow.tag (row : FragmentRow) : Tag := Tag.ofCode row.tagCode

/-- The members of a struct are told apart by their places. -/
def FragmentRow.key (row : FragmentRow) : PairKey := ⟨row.id, row.order⟩

/-- Columns: struct, order, tag, value, name, offset, modifier type and modifier value. -/
instance : Row PairKey FragmentRow where
  file := "Struct.txt"
  layout := [.integer, .integer, .integer, .integer, .text, .integer, .integer, .text]
  ofCells := fun (id, order, tagCode, value, name, offset, modType, modValue, _) =>
    { id, order, tagCode, value, name := withoutQuotes name, offset, modType
      modValue := withoutQuotes modValue }
  toCells := fun row =>
    (row.id, row.order, row.tagCode, row.value, row.name, row.offset, row.modType, row.modValue,
      ())
  key := FragmentRow.key
  keyText := fun row => row.key.text
  name := FragmentRow.name

end WireDictionary
