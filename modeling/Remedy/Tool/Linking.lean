import Remedy.Tool.Backup
import Remedy.Tool.Place

namespace Remedy.Tool.Linking

open Unix Files Place

def link (words : List String) : Tool Unit := do
  let g ← given [] words
  demand g 2
  bound g 2
  let source := g.operands.headD ""
  let path := g.operands.getD 1 ""
  match ← change (.hardLink source path) with
  | .ok _ => pure ()
  | .error e =>
    fail 1 ("cannot create link " ++ quotedAlways path ++ " to " ++ quotedAlways source ++ ": " ++
      e.message)

structure Plan where
  isSymbolic : Bool
  isRelative : Bool
  isLogical : Bool
  takesDirectories : Bool
  replaces : Bool
  asks : Bool
  backups : Backups
  tells : Bool
  watches : Bool

/-- Makes a link, if nothing stands in its place. -/
def Plan.make (p : Plan) (source path : String) : Tool (Except Errno Unit) := do
  if p.isSymbolic then
    if source == "" then return .error .missing else change (.symbolicLink source path)
  else if p.isLogical then
    match (← look).location source true with
    | .ok l => change (.hardLink (View.pathOf l) path)
    | .error e => return .error e
  else change (.hardLink source path)

def seenFrom (v : View) (source path : String) : String :=
  match canonical v (parent path) .nothing, canonical v source .nothing with
  | .ok directory, .ok target => relative directory target
  | _, _ => source

inductive Obstacle where
  | none
  | removable
  | refused

def Plan.obstacle (p : Plan) (made : List (List Name)) (source path : String) : Tool Obstacle := do
  let v ← look
  let refused (message : String) : Tool Obstacle := do
    complain message
    return .refused
  match v.status path false with
  | .error .missing => return .none
  | .error e => refused ("failed to access " ++ quotedAlways path ++ ": " ++ e.message)
  | .ok s =>
    let place := (v.location path false).toOption.getD []
    let origin := identity? v source (p.isSymbolic || p.isLogical)
    let isSame := origin.isSome && origin == identity? v path false &&
      (s.links == 1 || isSameEntry v source path)
    if s.kind == .directory then refused (quoted path ++ ": cannot overwrite directory")
    else if p.watches && made.contains place then
      refused ("will not overwrite just-created " ++ quotedAlways path ++ " with " ++
        quotedAlways source)
    else if isSame then
      refused (quotedAlways source ++ " and " ++ quotedAlways path ++ " are the same file")
    else if p.asks then
      if ← confirm ("replace " ++ quotedAlways path) then return .removable else return .refused
    else return .removable

/-- Makes one link; tells whether that went well. `made` holds the links that were made before, and
`first` is what came of making it at once. -/
def Plan.place (p : Plan) (made : List (List Name)) (first : Option (Except Errno Unit))
    (source path : String) : Tool Bool := do
  let v ← look
  let refused (message : String) : Tool Bool := do
    complain message
    return false
  let first ← if first.isSome || p.isRelative then pure first else some <$> p.make source path
  match first with
  | some (.ok _) =>
    told source none
    return true
  | _ =>
    let status := v.status source p.isLogical
    match if p.isSymbolic then none else some status with
    | some (.error e) =>
      refused ("failed to access " ++ quotedAlways source ++ ": " ++ e.message)
    | status =>
      let isDirectory := status.any fun s => s.toOption.any (·.kind == .directory)
      if isDirectory && !p.takesDirectories then
        refused (quoted source ++ ": hard link not allowed for directory")
      else
        let source := if p.isRelative then seenFrom v source path else source
        let isForced := p.replaces || p.asks || p.backups.kind.isSome
        let obstacle ← if isForced then p.obstacle made source path else pure .none
        match obstacle with
        | .refused => return false
        | obstacle =>
          let isThere := match obstacle with
            | .removable => true
            | _ => false
          let saved ← if isThere && p.backups.kind.isSome then do
              let name := p.backups.nameFor (← look) path
              match ← change (.rename path name) with
              | .ok _ => pure (some name)
              | .error _ => pure none
            else pure none
          -- a renaming among names of one file leaves them as they are
          if isThere && !isDirectory && ((← look).status path false).toOption.isSome then
            let _ ← change (.removeFile path)
          match ← p.make source path with
          | .ok _ =>
            told source saved
            return true
          | .error e =>
            match saved with
            | some name =>
              let _ ← change (.rename name path)
            | none => pure ()
            refused (failure source e)
where
  told (source : String) (saved : Option String) : Tool Unit := do
    if p.tells then
      putLine (saved.elim "" (fun name => quotedAlways name ++ " ~ ") ++ quotedAlways path ++
        (if p.isSymbolic then " -> " else " => ") ++ quotedAlways source)
  failure (source : String) (e : Errno) : String :=
    let what :=
      if p.isSymbolic then
        "failed to create symbolic link " ++ quotedAlways path ++
          (if source == "" || e = .nameTooLong then " -> " ++ quotedAlways source else "")
      else if e = .exists then "failed to create hard link " ++ quotedAlways path
      else "failed to create hard link " ++ quotedAlways path ++ " => " ++ quotedAlways source
    what ++ ": " ++ e.message

/-- Makes links one after the other; the status tells whether it went well. -/
def Plan.placeAll (p : Plan) (first : Option (Except Errno Unit))
    (pairs : List (String × String)) : Tool Unit := do
  let p := { p with watches := pairs.length > 1 && p.replaces && !p.isSymbolic &&
    p.backups.kind != some Backup.numbered }
  let _ ← pairs.foldlM (fun made (source, path) => do
    if ← p.place made first source path then
      return (((← look).location path false).toOption.elim made (· :: made))
    else
      note 1
      return made) []

def ln (words : List String) : Tool Unit := do
  let g ← given ([opt 's' "symbolic", opt 'f' "force", opt 'i' "interactive",
    opt 'n' "no-dereference", opt 'v' "verbose", opt 't' "target-directory" .argument,
    opt 'T' "no-target-directory", opt 'r' "relative", opt 'L' "logical",
    opt 'P' "physical", opt 'd' "directory", opt 'F' ""] ++ Backup.options) words
  let v ← look
  let directories := g.argumentsOf "t"
  directories.zipIdx.forM fun (directory, i) => do
    if i > 0 then fail 1 "multiple target directories specified"
    match v.status directory true with
    | .error e => fail 1 ("failed to access " ++ quotedAlways directory ++ ": " ++ e.message)
    | .ok s =>
      if s.kind != .directory then
        fail 1 ("target " ++ quotedAlways directory ++ " is not a directory")
  demand g 1 1 "file operand"
  if g.has "r" && !g.has "s" then fail 1 "cannot do --relative without --symbolic"
  let how := g.last? ["f", "i"]
  let p : Plan := {
    isSymbolic := g.has "s", isRelative := g.has "r", isLogical := g.last? ["L", "P"] == some "L"
    takesDirectories := g.has "d" || g.has "F", replaces := how == some "f"
    asks := how == some "i", backups := {}, tells := g.has "v", watches := false }
  let into (directory : String) (sources : List String) : List (String × String) :=
    sources.map fun s => (s, join directory (baseName s))
  let isPlace (path : String) : Option Errno := notDirectory? v path (!g.has "n")
  -- two operands are tried at once, before it is asked what the second one is
  let first : Option (Except Errno Unit) ← match directories, g.operands with
    | [], [source, path] =>
      if g.has "T" || p.isRelative then pure none else some <$> p.make source path
    | _, _ => pure none
  let isDone := first.any fun r => r.toOption.isSome
  let (first, pairs) ← match directories, g.operands with
    | directory :: _, sources =>
      if g.has "T" then
        fail 1 "cannot combine --target-directory and --no-target-directory"
      else pure (none, into directory sources)
    | [], [source] =>
      if g.has "T" then
        refuse 1 ("missing destination file operand after " ++ quotedAlways source)
      else pure (none, into "." [source])
    | [], [source, path] =>
      if isDone || g.has "T" || (isPlace path).isSome then pure (first, [(source, path)])
      else pure (none, into path [source])
    | [], operands =>
      let directory := operands.getLastD ""
      if g.has "T" then refuse 1 ("extra operand " ++ quotedAlways (operands.getD 2 ""))
      else
        match isPlace directory with
        | none => pure (none, into directory operands.dropLast)
        | some e => fail 1 ("target " ++ quotedAlways directory ++ ": " ++ e.message)
  { p with backups := ← Backups.ofOptions g }.placeAll first pairs

def catalogue : List (String × (List String → Tool Unit)) := [("ln", ln), ("link", link)]

end Remedy.Tool.Linking
