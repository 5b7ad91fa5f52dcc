import WireDictionary.Log.Event
import WireDictionary.Text.Blank

/-! Choosing what the log shows. A specification lists directives, separated by commas, and may end
in a slash and a text that every shown message must hold. A directive sets how much is shown of the
events whose target starts with a name, or of all events. -/

namespace WireDictionary.Log

/-- How much is shown: nothing, or the messages up to a level. -/
abbrev Verbosity := Option Level

def Verbosity.admits (v : Verbosity) (l : Level) : Bool :=
  match v with
  | none => false
  | some most => l.rank ≤ most.rank

/-- Reads a verbosity; upper and lower case do not matter. -/
def Verbosity.ofText? (text : String) : Option Verbosity :=
  let name := text.map Char.toLower
  if name = "off" then some none else (Level.ofName? name).map some

/-- How much is shown of some events. -/
structure Directive where
  /-- The start of the targets of these events; all events, if there is none. -/
  name? : Option String
  verbosity : Verbosity
  deriving DecidableEq, Repr

structure Filter where
  /-- The directives, those with shorter names first. -/
  directives : List Directive
  /-- The text that a message must hold. -/
  text? : Option String
  deriving DecidableEq, Repr

inductive SpecFault where
  /-- There is more than one slash. -/
  | slashes (spec : String)
  /-- A part of it is no directive. -/
  | directive (part : String)
  deriving DecidableEq, Repr

def SpecFault.message : SpecFault → String
  | slashes spec =>
    "warning: invalid logging spec '" ++ spec ++ "' (too many '/'s), ignoring it"
  | directive part => "warning: invalid logging spec '" ++ part ++ "', ignoring it"

namespace Directive

/-- Reads a directive that is not empty. Without a verbosity, everything under the name is shown;
the name of a verbosity alone holds for all events. -/
def ofText (text : String) : Except SpecFault Directive :=
  match text.toList.splitOn '=' with
  | [_] =>
    match Verbosity.ofText? text with
    | some v => .ok ⟨none, v⟩
    | none => .ok ⟨some text, some .trace⟩
  | [name, level] =>
    let level := String.ofList (Text.trim level)
    if level.isEmpty then .ok ⟨some (String.ofList name), some .trace⟩
    else
      match Verbosity.ofText? level with
      | some v => .ok ⟨some (String.ofList name), v⟩
      | none => .error (.directive level)
  | _ => .error (.directive text)

/-- Adds a directive. One for the same events is replaced and keeps its place. -/
def put (d : Directive) : List Directive → List Directive
  | [] => [d]
  | other :: rest => if other.name? = d.name? then d :: rest else other :: put d rest

def covers (d : Directive) (target : String) : Bool :=
  match d.name? with
  | none => true
  | some name => target.startsWith name

/-- The length of the name; longer names are more specific. -/
def weight (d : Directive) : Nat :=
  match d.name? with
  | none => 0
  | some name => name.utf8ByteSize

end Directive

namespace Filter

/-- The filter for a list of directives, in the order in which they were given. Of directives of the
same weight the later one is the more specific. Errors are shown if there are no directives. -/
def ofDirectives (given : List Directive) (text? : Option String) : Filter :=
  let distinct := given.foldl (fun known d => d.put known) []
  let directives :=
    if distinct.isEmpty then [⟨none, some .error⟩]
    else distinct.mergeSort fun a b => a.weight ≤ b.weight
  { directives, text? }

/-- Reads a specification. What cannot be read is left out and reported. -/
def ofSpec (spec : String) : Filter × List SpecFault :=
  match spec.toList.splitOn '/' with
  | parts :: rest =>
    if 1 < rest.length then (ofDirectives [] none, [.slashes spec])
    else
      let texts := (parts.splitOn ',').map fun part => String.ofList (Text.trim part)
      let read := (texts.filter (!·.isEmpty)).map Directive.ofText
      let text? := rest.head?.map String.ofList
      (ofDirectives (read.filterMap Except.toOption) text?,
        read.filterMap fun
          | .ok _ => none
          | .error fault => some fault)
  | [] => (ofDirectives [] none, [])

/-- Whether the most specific directive about an event admits its level. -/
def enables (f : Filter) (e : Event) : Bool :=
  match f.directives.reverse.find? (·.covers e.target) with
  | some d => d.verbosity.admits e.level
  | none => false

def holds (text : List Char) : List Char → Bool
  | [] => text.isEmpty
  | c :: rest => text.isPrefixOf (c :: rest) || holds text rest

def admits (f : Filter) (e : Event) : Bool :=
  f.enables e &&
    match f.text? with
    | some text => holds text.toList e.message.toList
    | none => true

end Filter

end WireDictionary.Log
