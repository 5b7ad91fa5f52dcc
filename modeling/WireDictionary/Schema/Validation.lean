import WireDictionary.Schema.Basic

/-! Checking the references within a schema. -/

namespace WireDictionary.Schema

def memberFindings (s : Schema) (structId : Int64) (m : Member) : List Finding :=
  match m.tag with
  | .field => if s.fields.contains m.value then [] else [.danglingField structId m.value]
  | .struct => if s.structs.contains m.value then [] else [.danglingStruct structId m.value]
  | .unchecked _ => []
  | .surprising code => [.surprisingMember structId code m.value]

def structFindings (s : Schema) (d : StructDecl) : List Finding :=
  d.members.flatMap (s.memberFindings d.id)

def entityFindings (s : Schema) (e : EntityDecl) : List Finding :=
  if s.structs.contains e.structId then []
  else [.missingStruct e.uniqueId e.name e.structId]

/-- All references that lead nowhere and all members of unknown kinds: those of the structs first,
those of the entities after them. -/
def validate (s : Schema) : List Finding :=
  s.structs.values.flatMap s.structFindings ++ s.entities.values.flatMap s.entityFindings

end WireDictionary.Schema
