import WireDictionary.Row.Basic

/-! Enums. One table declares them by id and name; another one holds their values. -/

namespace WireDictionary

structure EnumRow where
  id : Int64
  name : String
  descId : Int64
  isInternal : Bool
  deriving DecidableEq, Repr

/-- Columns: id, name, description and internal flag. -/
instance : Row Int64 EnumRow where
  file := "Enum.txt"
  layout := [.integer, .text, .integer, .flag]
  ofCells := fun (id, name, descId, isInternal, _) =>
    { id, name := withoutQuotes name, descId, isInternal }
  toCells := fun row => (row.id, row.name, row.descId, row.isInternal, ())
  key := EnumRow.id
  keyText := fun row => Numeral.decimal row.id
  name := EnumRow.name

structure EntryRow where
  /-- The enum that the value belongs to. -/
  id : Int64
  value : Int64
  name : String
  descId : Option Int64
  deriving DecidableEq, Repr

/-- The values of an enum are told apart by their numbers. -/
def EntryRow.key (row : EntryRow) : PairKey := ⟨row.id, row.value⟩

/-- Columns: enum, value, name and, if present, description. -/
instance : Row PairKey EntryRow where
  file := "EnumEntry.txt"
  layout := [.integer, .literal, .text, .optionalInteger]
  ofCells := fun (id, value, name, descId, _) =>
    { id, value, name := withoutQuotes name, descId }
  toCells := fun row => (row.id, row.value, row.name, row.descId, ())
  key := EntryRow.key
  keyText := fun row => row.key.text
  name := EntryRow.name

end WireDictionary
