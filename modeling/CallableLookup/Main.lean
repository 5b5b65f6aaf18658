import CallableLookup.CommandLine.Run

/-!
# The command line program

The files that a run can look at are read first; what the run does with them is decided by
`CommandLine.run`.
-/

namespace CallableLookup

/-- What stands at a path, if anything does. -/
def entryAt (path : String) : IO (Option FileEntry) := do
  try
    return some (.file (← IO.FS.readBinFile path))
  catch
    | .noFileOrDirectory .. => return none
    | _ => return some .directory

/-- The paths that a run can look at. -/
def CommandLine.pathsOf (arguments : List String) : List String :=
  match parse arguments with
  | .ok (.lookup r) =>
    r.file :: r.config.toList ++
      (FileTree.settingsPlaces (settingsDirectory r.file)).map fun (dir, name) => Path.join dir name
  | _ => []

/-- The tree of what stands at some paths. -/
def treeOf (paths : List String) : IO FileTree :=
  paths.foldlM (fun t path => do
    match ← entryAt path with
    | some entry => return t.write path entry
    | none => return t) .empty

end CallableLookup

open CallableLookup in
/-- Run the program. -/
def main (arguments : List String) : IO UInt32 := do
  let outcome := CommandLine.run (← treeOf (CommandLine.pathsOf arguments)) arguments
  IO.print outcome.stdout
  IO.eprint outcome.stderr
  return outcome.exitCode.toUInt32
