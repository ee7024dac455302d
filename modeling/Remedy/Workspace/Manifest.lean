import Remedy.Failure
import Remedy.Json.Basic
import Remedy.Text.Blank
import Remedy.Workspace.Path

namespace Remedy

open Workspace

/-- A path below the workspace root is not blank, is not absolute and never goes up. -/
def ManifestPath.isAdmissible (path : String) : Bool :=
  !Text.allBlank path && (Path.components path).all Component.isDescending

structure ManifestPath where
  text : String
  admissible : ManifestPath.isAdmissible text = true
deriving DecidableEq, Repr

namespace ManifestPath

theorem eq_of_text_eq {m n : ManifestPath} (h : m.text = n.text) : m = n := by
  cases m
  cases n
  cases h
  rfl

def ofString (path : String) : Except Failure ManifestPath :=
  if h : isAdmissible path then .ok ⟨path, h⟩
  else .error (.invalidProject (if Text.allBlank path then "empty path" else path))

/-- The manifest path with the given names, joined by slashes. -/
def ofNames (names : List String) : Except Failure ManifestPath :=
  ofString (String.ofList (['/'].intercalate (names.map String.toList)))

/-- The manifest path that leads from `root` to `path`. -/
def ofWorkspacePath (root path : String) : Except Failure ManifestPath :=
  match Path.relative? root path with
  | some components => ofNames (components.map Component.text)
  | none => .error (.invalidProject path)

def resolve (m : ManifestPath) (root : String) : String := Path.join root m.text

/-- Manifest paths are ordered by the code points of their text. -/
def le (a b : ManifestPath) : Bool := decide (a.text ≤ b.text)

def sort (ms : List ManifestPath) : List ManifestPath := ms.mergeSort le

def ofJson? (j : Json) : Option ManifestPath := do
  (ofString (← j.string?)).toOption

def toJson (m : ManifestPath) : Json := .string m.text

end ManifestPath

end Remedy
