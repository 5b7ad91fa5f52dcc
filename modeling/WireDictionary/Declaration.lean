import WireDictionary.Identifier
import WireDictionary.Schema.Basic

/-! Declarations in C. Every enum becomes an `enum` with one constant for each value, every struct a
`struct` with one line for each member. What a member cannot be declared as is said in a comment
behind a placeholder. All declarations are lists of lines; a line feed ends each line. -/

namespace WireDictionary.Declaration

def marker : String := "/* GENERATED CODE. DO NOT EDIT. */"

/-- The scope of the names when none is chosen. -/
def defaultScope : String := "gobi"

/-- Stands for the declaration of a member that has no declared type. -/
def placeholder : String := "???"

def comment (text : String) : String := "/* " ++ text ++ " */"

/-- The name of a struct within a scope: its identifier, or its id while it has no name. -/
def structName (scope : String) (d : StructDecl) : String :=
  scope ++ "_" ++
    match d.name? with
    | some name => Identifier.lowercase name
    | none => Numeral.decimal d.id

/-- The line of a value of an enum. The constant carries the scope and the name of the enum. -/
def valueLine (scope enumName : String) (v : EnumValue) : String :=
  "\t" ++ Identifier.uppercase scope ++ "_" ++ Identifier.uppercase enumName ++ "_" ++
    Identifier.uppercase v.name ++ "\t\t= " ++ Numeral.hexadecimal 8 v.value ++ ",     " ++
    comment v.name

/-- The lines of an enum. An empty line follows it. -/
def enumLines (scope : String) (e : EnumDecl) : List String :=
  ("enum " ++ scope ++ "_" ++ Identifier.lowercase e.name ++ " \x7b " ++ comment e.name) ::
    e.values.map (valueLine scope e.name) ++ ["\x7d;", ""]

/-- What a member of a struct turns out to be. -/
inductive Meaning where
  /-- A field of a known type. -/
  | typed (field : FieldRow) (type : BaseType)
  /-- A field of an unknown type. -/
  | untyped (field : FieldRow)
  | missingField (id : Int64)
  | nested (d : StructDecl)
  | missingStruct (id : Int64)
  /-- A member that is neither a field nor a struct. -/
  | tagged (code value : Int64)
  deriving DecidableEq, Repr

/-- What a member of a struct means in a schema. -/
def meaning (s : Schema) (m : Member) : Meaning :=
  match m.tag with
  | .field =>
    match s.fields.get? m.value with
    | none => .missingField m.value
    | some field =>
      match field.type? with
      | some type => .typed field type
      | none => .untyped field
  | .struct =>
    match s.structs.get? m.value with
    | none => .missingStruct m.value
    | some d => .nested d
  | .unchecked code | .surprising code => .tagged code m.value

open Numeral in
def meaningText (scope : String) : Meaning → String
  | .typed field type =>
    type.declared ++ " " ++ Identifier.lowercase field.name ++ "; " ++ comment field.name
  | .untyped field =>
    placeholder ++ "; " ++ comment (field.name ++ ": base type " ++ decimal field.baseType)
  | .missingField id => placeholder ++ "; " ++ comment ("missing field " ++ decimal id)
  | .nested d => placeholder ++ "; " ++ comment ("struct " ++ structName scope d)
  | .missingStruct id => placeholder ++ "; " ++ comment ("missing struct " ++ decimal id)
  | .tagged code value =>
    placeholder ++ "; " ++ comment ("tag " ++ decimal code ++ ", value " ++ decimal value)

def memberLine (scope : String) (s : Schema) (m : Member) : String :=
  "\t" ++ meaningText scope (meaning s m)

/-- The lines of a struct. An empty line follows it. -/
def structLines (scope : String) (s : Schema) (d : StructDecl) : List String :=
  ("struct " ++ structName scope d ++ " \x7b " ++ comment d.title) ::
    d.members.map (memberLine scope s) ++ ["\x7d;", ""]

def forwardLine (scope : String) (d : StructDecl) : String :=
  "struct " ++ structName scope d ++ "; " ++ comment d.title

def unlines (lines : List String) : String := String.join (lines.map (· ++ "\n"))

def enumText? (scope : String) (s : Schema) (id : Int64) : Option String :=
  (s.enums.get? id).map fun e => unlines (enumLines scope e)

def structText? (scope : String) (s : Schema) (id : Int64) : Option String :=
  (s.structs.get? id).map fun d => unlines (structLines scope s d)

/-- All lines: the marker, the enums, an announcement of every struct, and the structs. -/
def allLines (scope : String) (s : Schema) : List String :=
  marker :: s.enums.values.flatMap (enumLines scope) ++ s.structs.values.map (forwardLine scope) ++
    s.structs.values.flatMap (structLines scope s)

def text (scope : String) (s : Schema) : String := unlines (allLines scope s)

end WireDictionary.Declaration
