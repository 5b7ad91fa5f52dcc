import WireDictionary.Text.Case
import WireDictionary.Text.Strip

/-! Identifiers made from display names. A display name is free text; the identifier keeps the part
before the first hyphen, joins words by underscores and has no underscore at either end. -/

namespace WireDictionary.Identifier

/-- Words are separated by spaces or slashes in a display name, by underscores in an identifier. -/
def joiner (c : Char) : Char := if c = ' ' ∨ c = '/' then '_' else c

/-- The identifier that a name in its final case gives. -/
def ofCased (cs : List Char) : List Char :=
  Text.strip (· == '_') ((cs.map joiner).takeWhile (· != '-'))

/-- The lowercase identifier of a display name, for types and members. -/
def lowercase (name : String) : String := String.ofList (ofCased (Text.lower name.toList))

/-- The uppercase identifier of a display name, for constants. -/
def uppercase (name : String) : String := String.ofList (ofCased (Text.upper name.toList))

end WireDictionary.Identifier
