import WireDictionary.Schema.Assembly
import WireDictionary.Table

/-! The dictionary: one table for each kind of row, as read from the files of a directory or from
texts. -/

namespace WireDictionary

structure Dictionary where
  entities : Table String EntityRow
  entries : Table PairKey EntryRow
  enums : Table Int64 EnumRow
  fields : Table Int64 FieldRow
  fragments : Table PairKey FragmentRow

structure TableTexts where
  entities : String
  entries : String
  enums : String
  fields : String
  fragments : String
  deriving DecidableEq, Repr

structure TableCounts where
  entities : Nat
  enums : Nat
  entries : Nat
  fields : Nat
  fragments : Nat
  deriving DecidableEq, Repr

open Numeral in
/-- The line that sums up a dictionary. -/
def TableCounts.summary (c : TableCounts) : String :=
  "Loaded: " ++ natural c.entities ++ " entities, " ++ natural c.enums ++ " enums (" ++
    natural c.entries ++ " entries), " ++ natural c.fields ++ " fields, " ++
    natural c.fragments ++ " structs"

inductive LoadError where
  /-- The file at the path cannot be opened or read. -/
  | table (path : String) (fault : Fault)
  /-- What the table is read from is no file with a path. -/
  | source (fault : Fault)
  deriving DecidableEq, Repr

def LoadError.fault : LoadError → Fault
  | table _ fault => fault
  | source fault => fault

def LoadError.message : LoadError → String
  | table path fault => "failed to read table " ++ path ++ ": " ++ fault.message
  | source fault => "I/O error: " ++ fault.message

def pathIn (dir file : String) : String :=
  if dir.isEmpty then file else if dir.endsWith "/" then dir ++ file else dir ++ "/" ++ file

/-- Opens the file at a path. -/
abbrev Opener := String → Except Fault Source

namespace Dictionary

def ofTexts (t : TableTexts) : Dictionary where
  entities := .ofText t.entities
  entries := .ofText t.entries
  enums := .ofText t.enums
  fields := .ofText t.fields
  fragments := .ofText t.fragments

def ofTextsEvents (t : TableTexts) : List Log.Event :=
  Table.ofTextEvents EntityRow t.entities ++ Table.ofTextEvents EntryRow t.entries ++
    Table.ofTextEvents EnumRow t.enums ++ Table.ofTextEvents FieldRow t.fields ++
    Table.ofTextEvents FragmentRow t.fragments

/-- What reads files, and tells the log. -/
abbrev Loader := EStateM LoadError (List Log.Event)

def tablePath (R : Type) {K : Type} [Row K R] (dir : String) : String := pathIn dir (Row.file R)

def readTable {K R : Type} [DecidableEq K] [Row K R] (openFile : Opener) (dir : String) :
    Loader (Table K R) := do
  modify (· ++ [.tableOpened (tablePath R dir)])
  match openFile (tablePath R dir) with
  | .error fault => throw (.table (tablePath R dir) fault)
  | .ok source => (Table.readFrom source).adaptExcept (.table (tablePath R dir))

/-- Reads the tables from the files of a directory, one after the other, up to the first that cannot
be read. -/
def read (openFile : Opener) (dir : String) : Loader Dictionary := do
  let entities ← readTable openFile dir
  let entries ← readTable openFile dir
  let enums ← readTable openFile dir
  let fields ← readTable openFile dir
  let fragments ← readTable openFile dir
  modify (· ++ [.dictionaryLoaded dir])
  return { entities, entries, enums, fields, fragments }

def load (openFile : Opener) (dir : String) : Except LoadError Dictionary :=
  ((read openFile dir).run []).toExcept

/-- What reading the tables has to tell. -/
def loadEvents (openFile : Opener) (dir : String) : List Log.Event :=
  ((read openFile dir).run []).state

def counts (d : Dictionary) : TableCounts :=
  ⟨d.entities.size, d.enums.size, d.entries.size, d.fields.size, d.fragments.size⟩

/-- The steps that put the rows together: enums before their values, structs before the entities
that name them. -/
def steps (d : Dictionary) : List Schema.Step :=
  d.enums.intoRows.map .enum ++ d.entries.intoRows.map .entry ++ d.fields.intoRows.map .field ++
    d.fragments.intoRows.map .fragment ++ d.entities.intoRows.map .entity

def schema (d : Dictionary) : Schema := .ofSteps d.steps

def schemaEvents (d : Dictionary) : List Log.Event := Schema.empty.allEvents d.steps

end Dictionary

end WireDictionary
