import WireDictionary.Numeral

/-! Findings about a dictionary. None of them stops anything: they are reported beside the
declarations. -/

namespace WireDictionary

/-- Something about the tables that does not add up. -/
inductive Finding where
  /-- The code of a field's base type is out of range. -/
  | strangeField (fieldId : Int64) (name : String) (baseType : Int64)
  /-- A value belongs to an enum that is not declared. -/
  | missingOwner (enumId value : Int64) (name : String)
  /-- A member refers to a field that does not exist. -/
  | danglingField (structId fieldId : Int64)
  /-- A member refers to a struct that does not exist. -/
  | danglingStruct (structId target : Int64)
  /-- A member has a tag of an unknown kind. -/
  | surprisingMember (structId tag value : Int64)
  /-- An entity refers to a struct that does not exist. -/
  | missingStruct (entity name : String) (structId : Int64)
  deriving DecidableEq, Repr

/-- The kinds of findings. -/
inductive Finding.Kind where
  | strangeField
  | missingOwner
  | danglingField
  | danglingStruct
  | surprisingMember
  | missingStruct
  deriving DecidableEq, Repr

def Finding.kind : Finding → Kind
  | strangeField .. => .strangeField
  | missingOwner .. => .missingOwner
  | danglingField .. => .danglingField
  | danglingStruct .. => .danglingStruct
  | surprisingMember .. => .surprisingMember
  | missingStruct .. => .missingStruct

open Numeral in
def Finding.message : Finding → String
  | strangeField fieldId name baseType =>
    "Strange field: " ++ decimal fieldId ++ " (" ++ name ++ ") has base type " ++ decimal baseType
  | missingOwner enumId value name =>
    "No enum: " ++ decimal enumId ++ " (entry " ++ name ++ " = " ++ decimal value ++ ")"
  | danglingField structId fieldId =>
    "No field: " ++ decimal fieldId ++ " (in struct " ++ decimal structId ++ ")"
  | danglingStruct structId target =>
    "No struct: " ++ decimal target ++ " (in struct " ++ decimal structId ++ ")"
  | surprisingMember structId tag value =>
    "Surprising struct field: tag " ++ decimal tag ++ " value " ++ decimal value ++
      " (in struct " ++ decimal structId ++ ")"
  | missingStruct entity name structId =>
    "Entity missing struct: " ++ entity ++ " (" ++ name ++ ") -> " ++ decimal structId

end WireDictionary
