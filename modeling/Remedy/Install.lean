import Remedy.Json.Record
import Remedy.Shell.Quoting
import Remedy.Workspace.Manifest

namespace Remedy

/-- A command line for the task runner of the host. -/
structure Task where
  name : String
  source : String
  commandLine : String
deriving DecidableEq, Repr

namespace Task

def ofJson? (j : Json) : Option Task := do
  let field ← j.fields? ["name", "source", "command_line"]
  return {
    name := ← Json.required Json.string? (field "name")
    source := ← Json.required Json.string? (field "source")
    commandLine := ← Json.required Json.string? (field "command_line") }

def toJson (t : Task) : Json :=
  .object [
    ("name", .string t.name), ("source", .string t.source),
    ("command_line", .string t.commandLine)]

end Task

structure InstallCommand where
  packageId : String
  project : ManifestPath
  commandLine : String
deriving DecidableEq, Repr

namespace InstallCommand

/-- The characters of a package identifier that no shell treats in a special way. -/
def isPlain (c : Char) : Bool := c.isAlphanum || c == '.' || c == '_' || c == '-'

/-- A plain package identifier stays as it is; any other, and the empty one, is quoted. -/
def packageWord (flavor : Shell.Flavor) (packageId : String) : String :=
  if packageId ≠ "" ∧ packageId.toList.all isPlain then packageId else flavor.quote packageId

def forShell (flavor : Shell.Flavor) (tool packageId : String) (project : ManifestPath) :
    InstallCommand where
  packageId
  project
  commandLine :=
    tool ++ " add " ++ flavor.quote project.text ++ " package " ++ packageWord flavor packageId

/-- The command for the shell of the task runner. -/
def of (tool packageId : String) (project : ManifestPath) : InstallCommand :=
  forShell (.native Shell.isWindows) tool packageId project

def taskName : String := "NuGet Install"

def taskSource : String := "NuGet"

def toTask (c : InstallCommand) : Task := ⟨taskName, taskSource, c.commandLine⟩

def notice (c : InstallCommand) : String :=
  "Installing NuGet package " ++ c.packageId ++ "...\nRunning: " ++ c.commandLine

def ofJson? (j : Json) : Option InstallCommand := do
  let field ← j.fields? ["package_id", "project", "command_line"]
  return {
    packageId := ← Json.required Json.string? (field "package_id")
    project := ← Json.required ManifestPath.ofJson? (field "project")
    commandLine := ← Json.required Json.string? (field "command_line") }

def toJson (c : InstallCommand) : Json :=
  .object [
    ("package_id", .string c.packageId), ("project", c.project.toJson),
    ("command_line", .string c.commandLine)]

end InstallCommand

end Remedy
