import WireDictionary.Declaration
import WireDictionary.Dictionary
import WireDictionary.Schema.Validation

/-! The command: reading the tables of a directory, and writing the declarations and whatever there
is to report. How arguments are read, what the log shows and how a failure is worded are left to
others; a frontend stands for them. The report is a list of notices. -/

namespace WireDictionary.Command

/-- What the command is to do with a dictionary. -/
structure Settings where
  dir? : Option String
  scope : String
  logLevel : Option Log.Level
  deriving DecidableEq, Repr

/-- The directory to read. Without a choice it is the one in which the command works. -/
def Settings.dir (settings : Settings) : String := settings.dir?.getD "."

inductive Notice where
  /-- A message of the log, or one about its specification. -/
  | logged (text : String)
  | finding (finding : Finding)
  /-- The dictionary in a directory cannot be read, in the words of the frontend. -/
  | failure (dir : String) (error : LoadError) (text : String)
  | usage (text : String)
  deriving DecidableEq, Repr

def Notice.text : Notice → String
  | logged text | failure _ _ text | usage text => text
  | finding f => f.message

/-- What the command does: its exit code, what it writes, and what it reports. -/
structure Outcome where
  code : Nat
  output : String
  report : List Notice
  deriving DecidableEq, Repr

/-- The report as text, one notice to a line. -/
def Outcome.reportText (o : Outcome) : String := Declaration.unlines (o.report.map Notice.text)

/-- A log as it was set up. -/
structure Logger where
  /-- What there was to say about the specification. -/
  warnings : List String
  /-- What is shown of an event, if anything is. -/
  line? : Log.Event → Option String

structure Frontend where
  /-- Reads the arguments. Those that ask for no run have an outcome of their own. -/
  parse : List String → Except Outcome Settings
  /-- Sets up the log for a level, with the targets of events or without, and for the specification
  in the environment. -/
  logger : Log.Level → Bool → Option String → Logger
  /-- Words a failure: what could not be done, the error and its cause. -/
  failureText : String → String → String → String

def showsTarget : Log.Level → Bool
  | .debug | .trace => true
  | _ => false

/-- Everything there is to find about a schema: what was found while it was put together, and the
references that lead nowhere. -/
def allFindings (s : Schema) : List Finding := s.findings ++ s.validate

def outputFor (scope : String) (d : Dictionary) : String :=
  d.counts.summary ++ "\n" ++ Declaration.text scope d.schema

namespace Frontend

/-- The log, if one is to be kept. -/
def logger? (f : Frontend) (settings : Settings) (spec? : Option String) : Option Logger :=
  settings.logLevel.map fun level => f.logger level (showsTarget level) spec?

def warnings (f : Frontend) (settings : Settings) (spec? : Option String) : List Notice :=
  match f.logger? settings spec? with
  | none => []
  | some logger => logger.warnings.map .logged

def logNotices (f : Frontend) (settings : Settings) (spec? : Option String)
    (events : List Log.Event) : List Notice :=
  match f.logger? settings spec? with
  | none => []
  | some logger => (events.filterMap logger.line?).map .logged

/-- The notice that the dictionary in a directory cannot be read. -/
def failure (f : Frontend) (dir : String) (e : LoadError) : Notice :=
  .failure dir e
    (f.failureText ("Failed to load dictionary from " ++ dir) e.message e.fault.message)

/-- Reads the tables and writes the declarations. Nothing is written if a table cannot be read. -/
def run (f : Frontend) (openFile : Opener) (settings : Settings) (spec? : Option String) :
    Outcome :=
  let log := f.logNotices settings spec?
  let started := f.warnings settings spec? ++ log (Dictionary.loadEvents openFile settings.dir)
  match Dictionary.load openFile settings.dir with
  | .error e => { code := 1, output := "", report := started ++ [f.failure settings.dir e] }
  | .ok d =>
    let schema := d.schema
    let findings := allFindings schema
    let emitted : Log.Event :=
      .declarationsEmitted schema.enums.size schema.structs.size findings.length
    { code := 0
      output := outputFor settings.scope d
      report := started ++ log d.schemaEvents ++ findings.map .finding ++ log [emitted] }

def execute (f : Frontend) (openFile : Opener) (arguments : List String) (spec? : Option String) :
    Outcome :=
  match f.parse arguments with
  | .error o => o
  | .ok settings => f.run openFile settings spec?

end Frontend

end WireDictionary.Command
