import WireDictionary.Command.Frontend

/-! The arguments of the command. Options may stand before or behind the directory. The value of an
option is the rest of its argument behind an equals sign, or else the next argument, which then must
not look like an option. Two hyphens end the options. -/

namespace WireDictionary.Command

inductive Request where
  | run (settings : Settings)
  | version
  | help
  deriving DecidableEq, Repr

/-- The options that take a value. -/
inductive Setting where
  | scope
  | logLevel
  deriving DecidableEq, Repr

def Setting.flag : Setting → String
  | scope => "--namespace"
  | logLevel => "--log-level"

/-- Why arguments make no request. -/
inductive UsageError where
  | valueMissing (option : Setting)
  | repeated (option : Setting)
  | valueUnknown (option : Setting) (value : String)
  | valueUnneeded (argument : String)
  | dirEmpty
  | unexpected (argument : String)
  deriving DecidableEq, Repr

def UsageError.message : UsageError → String
  | valueMissing option => "a value is required for '" ++ option.flag ++ "' but none was supplied"
  | repeated option => "the argument '" ++ option.flag ++ "' cannot be used multiple times"
  | valueUnknown option value => "invalid value '" ++ value ++ "' for '" ++ option.flag ++ "'"
  | valueUnneeded argument => "unexpected value for '" ++ argument ++ "'"
  | dirEmpty => "a value is required for '[DIR]' but none was supplied"
  | unexpected argument => "unexpected argument '" ++ argument ++ "' found"

structure Chosen where
  dir? : Option String := none
  scope? : Option String := none
  logLevel? : Option (Option Log.Level) := none
  deriving DecidableEq, Repr

/-- The argument that was read last and is not yet taken into the settings. -/
inductive Pending where
  | nothing
  /-- An option whose value must follow. -/
  | awaiting (option : Setting)
  | given (option : Setting) (value : String)
  | dir (path : String)
  deriving DecidableEq, Repr

/-- Reads the value of the option that sets how much is logged. -/
def logLevel? (value : String) : Option (Option Log.Level) :=
  if value = "none" then some none else (Log.Level.ofName? value).map some

namespace Chosen

def set (c : Chosen) (option : Setting) (value : String) : Except UsageError Chosen :=
  match option with
  | .scope =>
    if c.scope?.isSome then .error (.repeated .scope) else .ok { c with scope? := some value }
  | .logLevel =>
    if c.logLevel?.isSome then .error (.repeated .logLevel)
    else
      match Command.logLevel? value with
      | none => .error (.valueUnknown .logLevel value)
      | some level => .ok { c with logLevel? := some level }

def settle (c : Chosen) : Pending → Except UsageError Chosen
  | .nothing => .ok c
  | .awaiting option => .error (.valueMissing option)
  | .given option value => c.set option value
  | .dir path => if path.isEmpty then .error .dirEmpty else .ok { c with dir? := some path }

/-- The settings, with the usual ones for those not made. -/
def settings (c : Chosen) : Settings where
  dir? := c.dir?
  scope := c.scope?.getD Declaration.defaultScope
  logLevel := c.logLevel?.getD none

end Chosen

inductive Form where
  /-- An option, with a value if an equals sign gives one. -/
  | option (option : Setting) (value? : Option String)
  | version
  | help
  /-- Something that looks like an option and is none. -/
  | wrong (error : UsageError)
  /-- The directory or the value of an option. -/
  | plain
  deriving DecidableEq, Repr

def withoutValue (argument : String) (value? : Option String) (form : Form) : Form :=
  if value?.isSome then .wrong (.valueUnneeded argument) else form

def longForm (argument : String) (body : List Char) : Form :=
  let name := String.ofList (body.takeWhile (· ≠ '='))
  let value? := (body.dropWhile (· ≠ '=')).tail?.map String.ofList
  if name = "namespace" then .option .scope value?
  else if name = "log-level" then .option .logLevel value?
  else if name = "version" then withoutValue argument value? .version
  else if name = "help" then withoutValue argument value? .help
  else .wrong (.unexpected argument)

/-- The form of an argument. Of letters behind one hyphen only the first counts, for all known ones
end the reading. A single hyphen is plain. -/
def form (argument : String) : Form :=
  match argument.toList with
  | '-' :: '-' :: body => longForm argument body
  | '-' :: 'V' :: _ => .version
  | '-' :: 'h' :: _ => .help
  | '-' :: _ :: _ => .wrong (.unexpected argument)
  | _ => .plain

def takeDir (c : Chosen) (pending : Pending) (argument : String) : Except UsageError Chosen := do
  let c ← c.settle pending
  if c.dir?.isSome then throw (.unexpected argument)
  return c

/-- Reads arguments behind two hyphens, none of which is an option. -/
def parsePlain (c : Chosen) (pending : Pending) : List String → Except UsageError Request
  | [] => do return .run (← c.settle pending).settings
  | argument :: rest => do
    let c ← takeDir c pending argument
    parsePlain c (.dir argument) rest

/-- Reads arguments, given the settings made so far and the pending argument. A request for the
version or for help is granted at once, if nothing before it was wrong. -/
def parseFrom (c : Chosen) (pending : Pending) : List String → Except UsageError Request
  | [] => do return .run (← c.settle pending).settings
  | argument :: rest =>
    if argument = "--" then parsePlain c pending rest
    else
      match form argument with
      | .wrong error => throw error
      | .version => do
        let _ ← c.settle pending
        return .version
      | .help => do
        let _ ← c.settle pending
        return .help
      | .option option value? => do
        let c ← c.settle pending
        match value? with
        | none => parseFrom c (.awaiting option) rest
        | some value =>
          let c ← c.set option value
          parseFrom c .nothing rest
      | .plain =>
        match pending with
        | .awaiting option => parseFrom c (.given option argument) rest
        | _ => do
          let c ← takeDir c pending argument
          parseFrom c (.dir argument) rest

def parse (arguments : List String) : Except UsageError Request :=
  parseFrom {} .nothing arguments

end WireDictionary.Command
