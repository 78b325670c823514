import Schemata.Program

/-!
# Entry point

Reads what the program looks at, runs it, and prints what came of it.  This layer has
no sockets, so that every server counts as out of reach.
-/

namespace Schemata.Main

/-- The variables that the program itself looks at. -/
def variableNames : List String := ["DATABASE_URL", "RUST_LOG"]

/-- What is at a path.  A directory and a missing file are both no file. -/
def readEntry (path : Path) : IO (Option FileEntry) := do
  try
    let bytes ← IO.FS.readBinFile ("/" ++ "/".intercalate path)
    return some (.file (.ok bytes.toList))
  catch
    | .noFileOrDirectory .. => return none
    | .inappropriateType .. => return none
    | error => return some (.file (.error (toString error)))

/-- The files that can matter in a directory. -/
def readTree (directory : Path) : IO FileTree := do
  let mut entries : List (Path × FileEntry) := []
  for ancestor in directory.ancestors do
    for name in [Program.environmentFile, Settings.fileName] do
      if let some entry ← readEntry (ancestor ++ name) then
        entries := (ancestor ++ name, entry) :: entries
  let found := entries
  return { entry := fun path => found.lookup path }

def readEnvironment : IO Environment := do
  variableNames.filterMapM fun name => do
    return (← IO.getEnv name).map (name, ·)

def run (arguments : List String) : IO UInt32 := do
  let directory := ((← IO.currentDir).toString.splitOn "/").filter (· ≠ "")
  let place : Surroundings := {
    tree := ← readTree directory
    directory
    environment := ← readEnvironment
    network := .isolated }
  let execution := Program.execute place {} arguments
  IO.print execution.output
  for message in execution.messages do
    IO.eprintln message
  if execution.exitCode = 2 then
    IO.eprintln "error: the arguments are not understood; for more information, try '--help'."
  return UInt32.ofNat execution.exitCode

end Schemata.Main

def main (arguments : List String) : IO UInt32 :=
  Schemata.Main.run arguments
