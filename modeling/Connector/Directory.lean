/-! Text files by their paths.

- `Directory.find?`: the text of the file that a path leads to, with the blank, `.` and `..` segments that
  paths may have. -/

namespace Connector

structure Directory where
  files : List (String × String)

namespace Directory

/-- A path's segments. A path from the root of all files has a slash as its first. -/
def segments (path : String) : List String :=
  match path.splitOn "/" with
  | "" :: rest => if rest.isEmpty then [] else "/" :: rest
  | all => all

def isName (segment : String) : Bool := segment ≠ "" && segment ≠ "."

def names (path : String) : List String := (segments path).filter isName

/-- Whether a file lies below. -/
def isFolder (d : Directory) (folder : List String) : Bool :=
  folder.isEmpty || d.files.any fun (path, _) =>
    folder.isPrefixOf (names path) && folder.length < (names path).length

/-- One segment further. Only folders lead on. -/
def enter? (d : Directory) (here : List String) (segment : String) : Option (List String) :=
  if !d.isFolder here then none
  else if segment = ".." then if here.isEmpty then none else some here.dropLast
  else if isName segment then some (here ++ [segment])
  else some here

/-- In octets. A path has 4096 with the end mark, and some are for the way to the folder that it starts in. -/
def maxPathLength : Nat := 4064

def find? (d : Directory) (path : String) : Option String := do
  if maxPathLength < path.utf8ByteSize then none
  let place ← (segments path).foldlM d.enter? []
  (d.files.find? fun (path, _) => names path = place).map Prod.snd

end Directory

end Connector
