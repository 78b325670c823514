/-!
# File trees

Files and directories below one root, looked at through their paths.  Settings are
found by walking from a directory up to the root, and the first regular file of the
wanted name decides.
-/

namespace Schemata

/-- The steps of the way from the root: names, `..` for the directory above, and `.` or
nothing for the directory itself. -/
abbrev Path := List String

namespace Path

/-- Whether a step leads nowhere. -/
def isStill (step : String) : Bool :=
  step = "" || step = "."

/-- The path itself and all shorter ones on its way, the longest first. -/
def stems : Path → List Path
  | [] => [[]]
  | first :: rest => (stems rest).map (first :: ·) ++ [[]]

/-- The directory itself, its parent, and so on up to the root.  A parent is found by
leaving out the last step that leads anywhere. -/
def ancestors (path : Path) : List Path :=
  path :: path.stems.tail.filter fun stem => !stem.getLast?.any isStill

/-- The names that lead from the root to where a path leads, unless it leads out of the
tree. -/
def resolve? (path : Path) : Option Path :=
  path.foldlM
    (fun names step =>
      if isStill step then some names
      else if step ≠ ".." then some (names ++ [step])
      else if names = [] then none
      else some names.dropLast)
    []

end Path

/-- The bytes of a file, or why they cannot be read. -/
abbrev Content := Except String (List UInt8)

inductive FileEntry where
  | file (content : Content)
  | directory

structure FileTree where
  /-- How the path of the root is written; empty for the topmost directory. -/
  root : String := ""
  /-- What is there under the names that lead from the root. -/
  entry : Path → Option FileEntry

/-- A regular file that was found. -/
structure FoundFile where
  path : Path
  content : Content

namespace FileTree

/-- The text of a path. -/
def pathText (tree : FileTree) (path : Path) : String :=
  tree.root ++ "/" ++ "/".intercalate path

/-- What is there at the end of a path. -/
def at? (tree : FileTree) (path : Path) : Option FileEntry :=
  path.resolve?.bind tree.entry

/-- The regular file of the given name in a directory. -/
def fileIn (tree : FileTree) (name directory : Path) : Option FoundFile :=
  match tree.at? (directory ++ name) with
  | some (.file content) => some { path := directory ++ name, content }
  | _ => none

/-- The regular file of the given name in the directory or the nearest one above it.
Directories that bear the name are passed over. -/
def nearest? (tree : FileTree) (name start : Path) : Option FoundFile :=
  start.ancestors.findSome? (tree.fileIn name)

end FileTree

end Schemata
