import Remedy.Registry.Settings
import Remedy.Workspace.Locator

namespace Remedy

structure Configuration where
  languageId : String
  tool : String
  /-- The extension of project manifests, without the leading dot. -/
  manifestExtension : String
  search : Registry.Settings
deriving DecidableEq, Repr

namespace Configuration

def defaultLanguageId : String := "csharp"

def defaultTool : String := "dotnet"

def defaultManifestExtension : String := "csproj"

def ofEnvironment (env : Environment) : Configuration where
  languageId := defaultLanguageId
  tool := env.tool.getD defaultTool
  manifestExtension :=
    (env.manifestExtension.map Workspace.dropLeadingDots).getD defaultManifestExtension
  search := .ofEnvironment env

def withTool (c : Configuration) (tool : String) : Configuration := { c with tool }

def withManifestExtension (c : Configuration) (extension : String) : Configuration :=
  { c with manifestExtension := Workspace.dropLeadingDots extension }

def withSearch (c : Configuration) (search : Registry.Settings) : Configuration :=
  { c with search }

def ofJson? (j : Json) : Option Configuration := do
  let field ← j.fields? ["language_id", "tool", "manifest_extension", "search"]
  return {
    languageId := ← Json.required Json.string? (field "language_id")
    tool := ← Json.required Json.string? (field "tool")
    manifestExtension := ← Json.required Json.string? (field "manifest_extension")
    search := ← Json.required Registry.Settings.ofJson? (field "search") }

def toJson (c : Configuration) : Json :=
  .object [
    ("language_id", .string c.languageId), ("tool", .string c.tool),
    ("manifest_extension", .string c.manifestExtension), ("search", c.search.toJson)]

end Configuration

end Remedy
