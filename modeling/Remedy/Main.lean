import Remedy.CommandLine.Program

namespace Remedy.Main

open CommandLine Files

def maxDepth : Nat := 2048

/-- The directories and regular files below a directory, by their paths; the walk over a workspace
looks at nothing else. -/
def entries : Nat → String → IO.FS.DirEntry → IO (List (String × Bool))
  | 0, _, _ => return []
  | depth + 1, path, directory => do
    let found ← directory.path.readDir
    let below ← found.toList.mapM fun entry => do
      let path := path ++ "/" ++ entry.fileName
      match (← entry.path.symlinkMetadata).type with
      | .dir => return (path, true) :: (← entries depth path entry)
      | .file => return [(path, false)]
      | .symlink | .other => return []
    return below.flatten

def plant (fs : FileSystem) (cwd : List Name) (path : String) (content : String) : FileSystem :=
  let path := Name.ofString path
  let planted := do
    let fs ← fs.makeDirectories cwd (FileSystem.parentOf path)
    fs.writeFile cwd path content
  planted.toOption.getD fs

def plantDirectory (fs : FileSystem) (cwd : List Name) (path : String) : FileSystem :=
  (fs.makeDirectories cwd (Name.ofString path)).toOption.getD fs

/-- What a run with these arguments sees. A workspace or a file that cannot be read is missing. -/
def surroundings (environment : Environment) (a : Arguments) : IO Surroundings := do
  let here ← IO.currentDir
  let cwd := (Text.segments FileSystem.slash (Name.ofString here.toString)).filter (· ≠ [])
  let fs := plantDirectory Host.Installation.fileSystem [] here.toString
  let workspace : IO.FS.DirEntry := ⟨here, a.workspace⟩
  let fs ←
    try
      let found ← entries maxDepth a.workspace workspace
      let fs := plantDirectory fs cwd a.workspace
      pure (found.foldl (fun fs (path, isDirectory) =>
        if isDirectory then plantDirectory fs cwd path else plant fs cwd path "") fs)
    catch _ => pure fs
  let fromInput := isInput a.diagnostics
  let input ← if fromInput then (← IO.getStdin).readToEnd else pure ""
  let file : IO.FS.DirEntry := ⟨here, a.diagnostics⟩
  let fs ←
    if a.diagnostics = "" ∨ fromInput then pure fs
    else
      try pure (plant fs cwd a.diagnostics (← IO.FS.readFile file.path))
      catch _ => pure fs
  return {
    environment, fs, cwd, input
    transport := fun _ => .error "the registry is out of reach" }

end Remedy.Main

open Remedy Remedy.CommandLine in
def main (args : List String) : IO UInt32 := do
  let values ← Environment.names.mapM fun name => return (name, ← IO.getEnv name)
  let environment := Environment.ofLookup fun name => (values.lookup name).join
  let seen ← match parse environment args with
    | .ok a => Main.surroundings environment a
    | .error _ =>
      pure { environment, fs := {}, cwd := [], input := "", transport := fun _ => .error "" }
  let report := run seen args
  (← IO.getStdout).putStr report.output
  (← IO.getStderr).putStr report.errors
  return UInt32.ofNat (report.exitCode.getD 1)
