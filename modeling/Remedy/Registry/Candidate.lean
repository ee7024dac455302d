import Remedy.Json.Record
import Remedy.Text.Blank

namespace Remedy.Registry

structure Candidate where
  id : String
  version : String := ""
  title : String := ""
  description : String := ""
  summary : String := ""
  iconUrl : Option String := none
  licenseUrl : Option String := none
  projectUrl : Option String := none
  authors : List String := []
  owners : List String := []
  totalDownloads : Nat := 0
  verified : Bool := false
deriving DecidableEq, Repr

namespace Candidate

/-- The title if the registry supplied one, otherwise the identifier. -/
def displayTitle (c : Candidate) : String :=
  if Text.allBlank c.title then c.id else c.title

/-- A candidate can be installed only under an identifier. -/
def isUsable (c : Candidate) : Bool := !Text.allBlank c.id

/-- One text stands for a list of it alone. -/
def oneOrMany? : Json → Option (List String)
  | .string s => some [s]
  | j => j.list? Json.string?

def fieldNames : List String :=
  ["id", "version", "title", "description", "summary", "iconUrl", "licenseUrl", "projectUrl",
    "authors", "owners", "totalDownloads", "verified"]

def ofJson? (j : Json) : Option Candidate := do
  let field ← j.fields? fieldNames
  return {
    id := ← Json.nullAs "" Json.string? (field "id")
    version := ← Json.nullAs "" Json.string? (field "version")
    title := ← Json.nullAs "" Json.string? (field "title")
    description := ← Json.nullAs "" Json.string? (field "description")
    summary := ← Json.nullAs "" Json.string? (field "summary")
    iconUrl := ← Json.optional none (Json.nullable? Json.string?) (field "iconUrl")
    licenseUrl := ← Json.optional none (Json.nullable? Json.string?) (field "licenseUrl")
    projectUrl := ← Json.optional none (Json.nullable? Json.string?) (field "projectUrl")
    authors := ← Json.nullAs [] oneOrMany? (field "authors")
    owners := ← Json.nullAs [] oneOrMany? (field "owners")
    totalDownloads := ← Json.nullAs 0 (Json.nat? 64) (field "totalDownloads")
    verified := ← Json.nullAs false Json.bool? (field "verified") }

def toJson (c : Candidate) : Json :=
  .object [
    ("id", .string c.id), ("version", .string c.version), ("title", .string c.title),
    ("description", .string c.description), ("summary", .string c.summary),
    ("iconUrl", Json.ofOption .string c.iconUrl),
    ("licenseUrl", Json.ofOption .string c.licenseUrl),
    ("projectUrl", Json.ofOption .string c.projectUrl),
    ("authors", .array (c.authors.map .string)), ("owners", .array (c.owners.map .string)),
    ("totalDownloads", Json.ofNat c.totalDownloads), ("verified", .bool c.verified)]

end Candidate

end Remedy.Registry
