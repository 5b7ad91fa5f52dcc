import WireDictionary.Log.Level
import WireDictionary.Row.Basic

/-! What the log tells. Events are kept as what happened; their importance, the part of the program
that they come from and their wording are functions of that. -/

namespace WireDictionary.Log

inductive Event where
  /-- A row has taken the place of one with the same key. -/
  | rowReplaced (file key : String)
  | lineSkipped (file line : String) (fault : LineFault)
  /-- A table has been read to its end. -/
  | tableRead (file : String) (rows skipped : Nat)
  | tableOpened (path : String)
  | dictionaryLoaded (dir : String)
  /-- An enum was declared again and has lost its values. -/
  | enumRedeclared (id : Int64)
  /-- A value of an enum that is not declared was left out. -/
  | entryDropped (id value : Int64) (name : String)
  | fieldStrange (id : Int64) (name : String)
  | declarationsEmitted (enums structs findings : Nat)
  deriving DecidableEq, Repr

namespace Event

def level : Event → Level
  | fieldStrange .. => .warn
  | dictionaryLoaded .. | declarationsEmitted .. => .info
  | _ => .debug

/-- The part of the program that an event comes from. -/
def target : Event → String
  | rowReplaced .. | lineSkipped .. | tableRead .. => "tables"
  | tableOpened .. | dictionaryLoaded .. => "dictionary"
  | enumRedeclared .. | entryDropped .. | fieldStrange .. => "builder"
  | declarationsEmitted .. => "qmidb"

open Numeral in
/-- The message of an event. Time does not pass here, so a message that reports how long something
took reports zero. -/
def message : Event → String
  | rowReplaced file key => file ++ ": row " ++ key ++ " replaced"
  | lineSkipped file line .short => file ++ ": skipping short line " ++ Text.Quoted.encode line
  | lineSkipped file line (.column e) =>
    file ++ ": skipping line " ++ Text.Quoted.encode line ++ ": " ++ e.message
  | tableRead file rows skipped =>
    "Parsed " ++ natural rows ++ " rows from " ++ file ++ " (" ++ natural skipped ++
      " skipped) in 0.000s"
  | tableOpened path => "Opening table '" ++ path ++ "'"
  | dictionaryLoaded dir => "Loaded dictionary from " ++ dir ++ " in 0.000s"
  | enumRedeclared id => "Enum " ++ decimal id ++ " redeclared"
  | entryDropped id value name =>
    "Dropping entry " ++ decimal id ++ "." ++ decimal value ++ " (" ++ name ++ ")"
  | fieldStrange id name =>
    "Strange field " ++ decimal id ++ " (" ++ Text.Quoted.encode name ++ ")"
  | declarationsEmitted enums structs findings =>
    "Emitted " ++ natural enums ++ " enums and " ++ natural structs ++ " structs with " ++
      natural findings ++ " diagnostics in 0ns"

end Event

end WireDictionary.Log
