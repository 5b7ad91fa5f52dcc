import WireDictionary.Finding
import WireDictionary.OrderedMap
import WireDictionary.Row.Entity
import WireDictionary.Row.Enum
import WireDictionary.Row.Field
import WireDictionary.Row.Fragment

/-! The schema: enums with their values, fields, structs with their members, and entities, each in
the order in which it first appeared. -/

namespace WireDictionary

structure EnumValue where
  value : Int64
  name : String
  deriving DecidableEq, Repr

/-- An enum with its values in ascending order. -/
structure EnumDecl where
  id : Int64
  name : String
  values : List EnumValue
  deriving DecidableEq, Repr

structure Member where
  order : Int64
  tag : Tag
  /-- A field, a struct or something else, as the tag says. -/
  value : Int64
  deriving DecidableEq, Repr

/-- A struct with its members in ascending order. -/
structure StructDecl where
  id : Int64
  /-- The name of the first entity that named the struct. -/
  name? : Option String
  members : List Member
  deriving DecidableEq, Repr

/-- What stands for the name of a struct that no entity has named. An entity of this name names
nothing. -/
def unnamed : String := "<none>"

/-- The name that a struct is shown by. -/
def StructDecl.title (s : StructDecl) : String := s.name?.getD unnamed

def StructDecl.isNamed (s : StructDecl) : Bool := s.name?.isSome

/-- An entity, bound to the struct that describes it. -/
structure EntityDecl where
  uniqueId : String
  name : String
  structId : Int64
  deriving DecidableEq, Repr

/-- All that the tables describe, and what was found while it was put together. -/
structure Schema where
  enums : OrderedMap Int64 EnumDecl
  fields : OrderedMap Int64 FieldRow
  structs : OrderedMap Int64 StructDecl
  entities : OrderedMap String EntityDecl
  findings : List Finding
  deriving DecidableEq, Repr

def Schema.empty : Schema := ⟨.empty, .empty, .empty, .empty, []⟩

end WireDictionary
