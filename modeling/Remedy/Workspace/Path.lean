import Remedy.Text.Segments

namespace Remedy.Workspace

inductive Component where
  | root
  | current
  | parent
  | normal (name : String)
deriving DecidableEq, Repr

namespace Component

def text : Component → String
  | .root => "/"
  | .current => "."
  | .parent => ".."
  | .normal name => name

def ofSegment? : List Char → Option Component
  | [] | ['.'] => none
  | ['.', '.'] => some .parent
  | segment => some (.normal (String.ofList segment))

def isDescending : Component → Bool
  | .normal _ | .current => true
  | .root | .parent => false

end Component

namespace Path

def components (path : String) : List Component :=
  match path.toList with
  | '/' :: rest => .root :: (Text.segments '/' rest).filterMap Component.ofSegment?
  | cs =>
    match Text.segments '/' cs with
    | ['.'] :: rest => .current :: rest.filterMap Component.ofSegment?
    | segments => segments.filterMap Component.ofSegment?

/-- The path `path` seen from `root`; a path that does not start with a slash extends the root. -/
def join (root path : String) : String :=
  if path.toList.head? = some '/' ∨ root = "" then path
  else if root.toList.getLast? = some '/' then root ++ path
  else root ++ "/" ++ path

/-- The components that `path` has after those of `root`. -/
def relative? (root path : String) : Option (List Component) :=
  let base := components root
  let all := components path
  if base.isPrefixOf all then some (all.drop base.length) else none

end Path

end Remedy.Workspace
