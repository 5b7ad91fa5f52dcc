import WireDictionary.Row.BaseType
import WireDictionary.Row.Basic

/-! Fields: the leaves of the structs. -/

namespace WireDictionary

structure FieldRow where
  id : Int64
  name : String
  size : Int64
  /-- The code of the base type. It need not belong to any. -/
  baseType : Int64
  typeValue : Int64
  isHex : Bool
  descId : Option Int64
  isInternal : Bool
  deriving DecidableEq, Repr

/-- The base type of a field, if its code belongs to one. -/
def FieldRow.type? (row : FieldRow) : Option BaseType := BaseType.ofCode? row.baseType

/-- Columns: id, name, size, base type, type value, hexadecimal flag and, if present, description
and internal flag. A field is not internal unless the table says so. -/
instance : Row Int64 FieldRow where
  file := "Field.txt"
  layout :=
    [.integer, .text, .integer, .integer, .integer, .flag, .optionalInteger, .optionalFlag]
  ofCells := fun (id, name, size, baseType, typeValue, isHex, descId, internal, _) =>
    { id, name := withoutQuotes name, size, baseType, typeValue, isHex, descId
      isInternal := internal.getD false }
  toCells := fun row =>
    (row.id, row.name, row.size, row.baseType, row.typeValue, row.isHex, row.descId,
      some row.isInternal, ())
  key := FieldRow.id
  keyText := fun row => Numeral.decimal row.id
  name := FieldRow.name

end WireDictionary
