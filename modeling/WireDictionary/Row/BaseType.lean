/-! The types of leaf fields, by their codes in the field table. -/

namespace WireDictionary

/-- The type of a leaf field, in the order of the codes. Strings differ in their encoding and in
whether a zero ends them. -/
inductive BaseType where
  | bool
  | int8
  | uint8
  | int16
  | uint16
  | int32
  | uint32
  | int64
  | uint64
  | stringAnsi
  | stringUcs2
  | stringAnsiNul
  | stringUcs2Nul
  | float32
  | float64
  | stringUtf8
  | stringUtf8Nul
  deriving DecidableEq, Repr

namespace BaseType

def all : List BaseType :=
  [bool, int8, uint8, int16, uint16, int32, uint32, int64, uint64, stringAnsi, stringUcs2,
    stringAnsiNul, stringUcs2Nul, float32, float64, stringUtf8, stringUtf8Nul]

def code (t : BaseType) : Nat := all.idxOf t

def maxCode : Int64 := 16

def ofCode? (code : Int64) : Option BaseType :=
  if 0 ≤ code then all[code.toInt.toNat]? else none

/-- The type as a declaration spells it. -/
def declared : BaseType → String
  | bool => "bool"
  | int8 => "int8"
  | uint8 => "uint8"
  | int16 => "int16"
  | uint16 => "uint16"
  | int32 => "int32"
  | uint32 => "uint32"
  | int64 => "int64"
  | uint64 => "uint64"
  | float32 => "float32"
  | float64 => "float64"
  | stringAnsi | stringUcs2 | stringAnsiNul | stringUcs2Nul | stringUtf8 | stringUtf8Nul =>
    "string"

/-- A code belongs to the type that it reads as. -/
theorem ofCode?_code (t : BaseType) : ofCode? (Int64.ofNat t.code) = some t := by
  cases t <;> decide

end BaseType

end WireDictionary
