import Remedy.Diagnostic.Match

namespace Remedy

structure CommandRef where
  command : String
  title : String
  arguments : List Json := []
deriving Repr

namespace CommandRef

def ofJson? (j : Json) : Option CommandRef := do
  let field ← j.fields? ["command", "title", "arguments"]
  return {
    command := ← Json.required Json.string? (field "command")
    title := ← Json.required Json.string? (field "title")
    arguments := ← Json.optional [] (Json.list? Json.value?) (field "arguments") }

def toJson (c : CommandRef) : Json :=
  .object [
    ("command", .string c.command), ("title", .string c.title), ("arguments", .array c.arguments)]

end CommandRef

inductive ActionKind where
  | quickFix
deriving DecidableEq, Repr

namespace ActionKind

def name : ActionKind → String
  | .quickFix => "quickfix"

def ofJson? : Json → Option ActionKind
  | .string s => if s = quickFix.name then some .quickFix else none
  | .object [(s, .null)] => if s = quickFix.name then some .quickFix else none
  | _ => none

def toJson (k : ActionKind) : Json := .string k.name

end ActionKind

structure CodeAction where
  title : String
  kind : ActionKind
  command : CommandRef
  range : Range
deriving Repr

namespace CodeAction

def ofJson? (j : Json) : Option CodeAction := do
  let field ← j.fields? ["title", "kind", "command", "range"]
  return {
    title := ← Json.required Json.string? (field "title")
    kind := ← Json.required ActionKind.ofJson? (field "kind")
    command := ← Json.required CommandRef.ofJson? (field "command")
    range := ← Json.required Range.ofJson? (field "range") }

def toJson (a : CodeAction) : Json :=
  .object [
    ("title", .string a.title), ("kind", a.kind.toJson), ("command", a.command.toJson),
    ("range", a.range.toJson)]

end CodeAction

def searchCommand : String := "extension.searchNuget"

def searchCommandTitle : String := "Search NuGet"

namespace Diagnostic.Remediable

def title (r : Remediable) : String :=
  "Search for NuGet package to resolve '" ++ r.symbol ++ "'"

def toCodeAction (r : Remediable) : CodeAction where
  title := r.title
  kind := .quickFix
  command := ⟨searchCommand, searchCommandTitle, [.string r.symbol]⟩
  range := r.range

end Diagnostic.Remediable

end Remedy
