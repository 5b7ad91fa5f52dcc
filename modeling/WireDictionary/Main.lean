import WireDictionary.Command.Run

/-! The program. It reads the files, and leaves all else to the command. -/

namespace WireDictionary

/-- The fault that the system reports in its own terms. -/
def faultOf : IO.Error → Fault
  | .noFileOrDirectory .. => .notFound
  | .inappropriateType _ code _ =>
    if code = 21 ∨ code + 21 = 0 then .isADirectory else .notADirectory
  | e => .other (toString e)

def readFile (path : String) : IO (Except Fault Source) := do
  try
    let bytes ← IO.FS.readBinFile path
    return .ok { bytes := bytes.toList }
  catch e =>
    match faultOf e with
    | .isADirectory => return .ok { bytes := [], fault? := some .isADirectory }
    | fault => return .error fault

/-- The paths of the tables in a directory, in the order in which they are read. -/
def tablePaths (dir : String) : List String :=
  [Dictionary.tablePath EntityRow dir, Dictionary.tablePath EntryRow dir,
    Dictionary.tablePath EnumRow dir, Dictionary.tablePath FieldRow dir,
    Dictionary.tablePath FragmentRow dir]

/-- Reads the tables that the arguments ask for, so that they can be opened later. -/
def readTables (arguments : List String) : IO Opener := do
  match Command.parse arguments with
  | .ok (.run settings) =>
    let files ← (tablePaths settings.dir).mapM fun path => return (path, ← readFile path)
    return fun path => (files.lookup path).getD (.error .notFound)
  | _ => return fun _ => .error .notFound

end WireDictionary

open WireDictionary in
def main (arguments : List String) : IO UInt32 := do
  let openFile ← readTables arguments
  let outcome := Command.execute openFile arguments (← IO.getEnv "RUST_LOG")
  IO.eprint outcome.reportText
  IO.print outcome.output
  return outcome.code.toUInt32
