import WireDictionary.Text.Line
import WireDictionary.Text.Utf8

/-! What is read from a file: its bytes, up to its end or up to a fault. -/

namespace WireDictionary

/-- Why a file cannot be opened or read. -/
inductive Fault where
  | notFound
  | notADirectory
  | isADirectory
  /-- Any other cause, in the words of whoever reports it. -/
  | other (reason : String)
  deriving DecidableEq, Repr

def Fault.message : Fault → String
  | notFound => "No such file or directory (os error 2)"
  | notADirectory => "Not a directory (os error 20)"
  | isADirectory => "Is a directory (os error 21)"
  | other reason => reason

/-- The bytes of an open file, and the fault that follows them where the end should be. -/
structure Source where
  bytes : List UInt8
  fault? : Option Fault := none
  deriving DecidableEq, Repr

namespace Source

def lineFeed : UInt8 := 0x0A

/-- The lines as bytes, each with its line feed. A last line without one is complete only if the
file ends there; a fault takes it away. -/
def byteLines (s : Source) : List (List UInt8) :=
  let pieces := Text.pieces lineFeed s.bytes
  if s.fault?.isSome then pieces.filter (·.getLast? == some lineFeed) else pieces

/-- The lines as texts, each with its line feed. Every line is decoded on its own. -/
def lines (s : Source) : List String :=
  s.byteLines.map fun bytes => String.ofList (Text.Utf8.decode bytes)

end Source

end WireDictionary
