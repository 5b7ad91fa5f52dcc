import WireDictionary.Source

/-! A tree of files and directories in memory, and the reading of paths in it. -/

namespace WireDictionary

/-- A file with its bytes, or a directory with its named entries. -/
inductive FileTree where
  | file (bytes : List UInt8)
  | dir (entries : List (String × FileTree))
  deriving Repr

namespace FileTree

def emptyDir : FileTree := dir []

/-- Replaces the entry of a name, or adds one. -/
def setEntry (name : String) (child : FileTree) :
    List (String × FileTree) → List (String × FileTree)
  | [] => [(name, child)]
  | (other, tree) :: rest =>
    if other = name then (name, child) :: rest else (other, tree) :: setEntry name child rest

def entries : FileTree → List (String × FileTree)
  | file _ => []
  | dir entries => entries

/-- Puts a tree at the end of a path and makes the directories on the way. A directory keeps the
entries that it has. -/
def place (tree : FileTree) : List String → FileTree → FileTree
  | [], here =>
    match tree, here with
    | dir [], dir kept => dir kept
    | _, _ => tree
  | name :: path, here =>
    let child := (here.entries.lookup name).getD emptyDir
    dir (setEntry name (place tree path child) here.entries)

def names (path : String) : List String :=
  ((path.toList.splitOn '/').map String.ofList).filter (· ≠ "")

/-- Follows names from a directory whose parents, nearest first, are `above`. A dot stays, two dots
go up. -/
def follow (above : List FileTree) (here : FileTree) : List String → Except Fault FileTree
  | [] => .ok here
  | name :: path =>
    match here with
    | file _ => .error .notADirectory
    | dir entries =>
      if name = "." then follow above here path
      else if name = ".." then
        match above with
        | [] => .error .notFound
        | parent :: rest => follow rest parent path
      else
        match entries.lookup name with
        | none => .error .notFound
        | some child => follow (here :: above) child path

/-- Opens the file at a path below the root. There is nothing outside the tree. A directory opens
like a file, and the fault comes with the first byte. -/
def openFile (root : FileTree) (path : String) : Except Fault Source :=
  if path.startsWith "/" then .error .notFound
  else
    (follow [] root (names path)).map fun
      | file bytes => { bytes }
      | dir _ => { bytes := [], fault? := some .isADirectory }

end FileTree

end WireDictionary
