import WireDictionary.Row.Basic

/-! Entities: the messages and parameters of the protocol. A row names an entity and refers to the
struct that describes its layout on the wire. -/

namespace WireDictionary

structure EntityRow where
  /-- What tells the entity apart from all others, made of its type and its key by `idOf`. -/
  uniqueId : String
  typeCode : Int64
  /-- The key within the type, a list of numbers as a rule. -/
  key : String
  name : String
  structId : Int64
  format : Option Int64
  isInternal : Bool
  extFormat : Option Int64
  deriving DecidableEq, Repr

/-- The key within a type as part of a unique id: without quotes, and with dots for commas. -/
def EntityRow.dotted (key : String) : String :=
  String.ofList ((key.toList.filter (· != '"')).map fun c => if c = ',' then '.' else c)

def EntityRow.idOf (typeCode : Int64) (key : String) : String :=
  Numeral.decimal typeCode ++ "." ++ dotted key

/-- Columns: type, key, name, struct and, if present, format, internal flag and extended format. An
entity is internal unless the table says otherwise. -/
instance : Row String EntityRow where
  file := "Entity.txt"
  layout :=
    [.integer, .text, .text, .integer, .optionalInteger, .optionalFlag, .optionalInteger]
  ofCells := fun (typeCode, key, name, structId, format, internal, extFormat, _) =>
    { uniqueId := EntityRow.idOf typeCode (withoutQuotes key), typeCode, key := withoutQuotes key
      name := withoutQuotes name, structId, format, isInternal := internal.getD true, extFormat }
  toCells := fun row =>
    (row.typeCode, row.key, row.name, row.structId, row.format, some row.isInternal,
      row.extFormat, ())
  key := EntityRow.uniqueId
  keyText := EntityRow.uniqueId
  name := EntityRow.name

end WireDictionary
