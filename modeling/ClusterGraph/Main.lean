import ClusterGraph.CommandLine.Files

/-!
The program.

It collects the variables and files at which a run looks, lets the run end, writes the files that the
run changed, and prints.
-/

namespace ClusterGraph.Main

/-- The variables that are set. -/
def environment : IO Environment := do
  let mut found : Environment := ∅
  for name in Environment.names do
    if let some value ← IO.getEnv name then
      found := found.insert name value
  return found

/-- The tree with what a path leads to. -/
def withPath (tree : FileTree) (path : String) : IO FileTree := do
  try
    let text ← IO.FS.readFile path
    return (tree.writeWithin path text).toOption.getD tree
  catch
    | .noFileOrDirectory .. => return tree
    | _ => return (tree.ensure path).toOption.getD tree

/-- The tree with what is in the way of a run. The first round finds the settings, the second one the
files that they name. -/
def workspace (arguments : List String) : IO Workspace := do
  let environment ← environment
  let place := (← IO.currentDir).toString
  let start : FileTree := { entries := ∅ }
  let mut files := { (start.ensure place).toOption.getD start with workingPlace := place }
  for _ in [0, 1] do
    for path in CommandLine.paths arguments { files, environment } do
      files ← withPath files path
  return { files, environment }

/-- Writes what a run changed. -/
def writeChanges (before after : FileTree) : IO Unit := do
  for (place, entry) in before.changes after do
    match entry with
    | .directory => IO.FS.createDirAll place
    | .file text => IO.FS.writeFile place text

end ClusterGraph.Main

open ClusterGraph in
/-- Runs the program. -/
def main (arguments : List String) : IO UInt32 := do
  let workspace ← Main.workspace arguments
  let outcome := CommandLine.run arguments workspace
  Main.writeChanges workspace.files outcome.files
  IO.print outcome.output
  IO.eprint outcome.errors
  return outcome.exit.toUInt32
