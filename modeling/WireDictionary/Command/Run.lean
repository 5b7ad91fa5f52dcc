import WireDictionary.Command.Arguments
import WireDictionary.Log.Filter

/-! The frontend of the command: its answers to arguments that ask for no run, the log that a
specification chooses, and the wording of failures. -/

namespace WireDictionary.Command

def version : String := "0.1.0"

def versionText : String := "qmidb " ++ version ++ "\n"

def helpText : String :=
  Declaration.unlines
    ["qmidb - turn the QMI dictionary tables into C declarations", "",
      "Usage: qmidb [OPTIONS] [DIR]", "",
      "Arguments:",
      "  [DIR]  Directory holding Entity.txt, EnumEntry.txt, Enum.txt, Field.txt and Struct.txt",
      "",
      "Options:",
      "      --namespace <NAMESPACE>  Prefix for generated type and constant names [default: gobi]",
      "      --log-level <LOG_LEVEL>  Log verbosity [default: none]" ++
        " [possible values: none, error, warn, info, debug, trace]",
      "  -h, --help                   Print help",
      "  -V, --version                Print version"]

/-- A message whose further lines are indented by a margin. -/
def hanging (margin message : String) : String :=
  String.intercalate ("\n" ++ margin) ((message.toList.splitOn '\n').map String.ofList)

/-- A cause of a failure, by its number. Further lines of it are indented. -/
def causeText (number message : String) : String :=
  "    " ++ number ++ ": " ++ hanging "       " message

/-- A failure with its causes, one behind the other. -/
def failureText (doing error cause : String) : String :=
  "Error: " ++ doing ++ "\n\nCaused by:\n" ++ causeText "0" error ++ "\n" ++ causeText "1" cause

/-- The head of a message of the log: its level, and its target if that is shown. -/
def logHead (showTarget : Bool) (event : Log.Event) : String :=
  let label := event.level.label
  "[" ++ label ++ String.ofList (List.replicate (5 - label.length) ' ') ++
    (if showTarget then " " ++ event.target else "") ++ "] "

/-- The log of a level. A specification in the environment wins over the level. Further lines of a
message are indented. -/
def logger (level : Log.Level) (showTarget : Bool) (spec? : Option String) : Logger :=
  let (filter, faults) := Log.Filter.ofSpec (spec?.getD level.name)
  { warnings := faults.map Log.SpecFault.message
    line? := fun event =>
      if filter.admits event then some (logHead showTarget event ++ hanging "    " event.message)
      else none }

def answer (arguments : List String) : Except Outcome Settings :=
  match parse arguments with
  | .error e => .error { code := 2, output := "", report := [.usage ("error: " ++ e.message)] }
  | .ok .version => .error { code := 0, output := versionText, report := [] }
  | .ok .help => .error { code := 0, output := helpText, report := [] }
  | .ok (.run settings) => .ok settings

def standard : Frontend := { parse := answer, logger, failureText }

def execute (openFile : Opener) (arguments : List String) (spec? : Option String) : Outcome :=
  standard.execute openFile arguments spec?

end WireDictionary.Command
