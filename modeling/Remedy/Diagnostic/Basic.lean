import Remedy.Diagnostic.Code

namespace Remedy

structure Position where
  line : Nat := 0
  character : Nat := 0
deriving DecidableEq, Repr, Inhabited

namespace Position

def ofJson? (j : Json) : Option Position := do
  let field ← j.fields? ["line", "character"]
  return {
    line := ← Json.required (Json.nat? 32) (field "line")
    character := ← Json.required (Json.nat? 32) (field "character") }

def toJson (p : Position) : Json :=
  .object [("line", Json.ofNat p.line), ("character", Json.ofNat p.character)]

end Position

structure Range where
  start : Position := {}
  stop : Position := {}
deriving DecidableEq, Repr, Inhabited

namespace Range

def ofJson? (j : Json) : Option Range := do
  let field ← j.fields? ["start", "end"]
  return {
    start := ← Json.required Position.ofJson? (field "start")
    stop := ← Json.required Position.ofJson? (field "end") }

def toJson (r : Range) : Json :=
  .object [("start", r.start.toJson), ("end", r.stop.toJson)]

end Range

structure Diagnostic where
  code : Diagnostic.Code := .absent
  message : String := ""
  range : Range := {}
  source : Option String := none
deriving DecidableEq, Repr, Inhabited

namespace Diagnostic

def ofJson? (j : Json) : Option Diagnostic := do
  let field ← j.fields? ["code", "message", "range", "source"]
  return {
    code := ← Json.optional .absent Code.ofJson? (field "code")
    message := ← Json.nullAs "" Json.string? (field "message")
    range := ← Json.optional {} Range.ofJson? (field "range")
    source := ← Json.optional none (Json.nullable? Json.string?) (field "source") }

def toJson (d : Diagnostic) : Json :=
  .object [
    ("code", d.code.toJson), ("message", .string d.message), ("range", d.range.toJson),
    ("source", Json.ofOption .string d.source)]

/-- Reads a set of diagnostics; one that cannot be read spoils the set. -/
def listOfJson? : Json → Option (List Diagnostic) := Json.list? ofJson?

end Diagnostic

end Remedy
