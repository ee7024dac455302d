import Remedy.Files.FileSystem

namespace Remedy.Files

inductive Change where
  | makeDirectory (path : String) (mode : Nat)
  | makeFifo (path : String) (mode : Nat)
  | removeFile (path : String)
  | removeDirectory (path : String)
  | rename (source target : String)
  | hardLink (source target : String)
  | symbolicLink (target path : String)
  | setMode (path : String) (mode : Nat)
  | setOwner (path : String) (user group : Nat) (follow : Bool)
  | setTime (path : String) (modified : Int) (follow : Bool)
  | resize (path : String) (size : Nat)
deriving Repr

namespace FileSystem

def bare (s : String) : List UInt8 :=
  match ((path s).reverse.dropWhile (· = slash)).reverse with
  | [] => path s
  | p => p

def lastSegment (s : String) : Name := (Text.segments slash (bare s)).getLastD []

def unlinkInode (fs : FileSystem) (node : Node) : FileSystem :=
  match node with
  | .file n => fs.modifyInode n fun i => { i with links := i.links - 1 }
  | _ => fs

def renameTo (fs : FileSystem) (source target : List Name) : Except Errno FileSystem := do
  let node ← ((fs.root.get? source).elim (.error .missing) .ok : Except Errno Node)
  let moved (fs : FileSystem) := (fs.put source none).put target (some node)
  if source = target then .ok fs
  else if source.isPrefixOf target then .error .invalid
  else
    match node, fs.root.get? target with
    | _, none => .ok (moved fs)
    | .directory .., some (.directory _ []) => .ok (moved (fs.put target none))
    | .directory .., some (.directory ..) => .error .notEmpty
    | .directory .., some _ => .error .notDirectory
    | _, some (.directory ..) => .error .isDirectory
    | .file n, some (.file m) =>
      if n = m then .ok fs else .ok (moved (fs.unlinkInode (.file m)))
    | _, some old => .ok (moved (fs.unlinkInode old))

def apply (fs : FileSystem) (cwd : List Name) : Change → Except Errno FileSystem
  | .makeDirectory p mode => do
    let location ← fs.locate cwd (bare p) false
    match fs.root.get? location with
    | some _ => .error .exists
    | none => .ok (fs.createDirectory location mode)
  | .makeFifo p mode => do
    let location ← fs.locate cwd (path p) false
    match fs.root.get? location with
    | some _ => .error .exists
    | none =>
      let (n, fs) := fs.allocate { mode }
      .ok (fs.put location (some (.fifo n)))
  | .removeFile p => do
    let location ← fs.locate cwd (path p) false
    match fs.root.get? location with
    | none => .error .missing
    | some (.directory ..) => .error .isDirectory
    | some node => .ok ((fs.unlinkInode node).put location none)
  | .removeDirectory p => do
    if lastSegment p = Name.current then .error .invalid
    else if lastSegment p = Name.parent then .error .notEmpty
    else
      let location ← fs.locate cwd (bare p) false
      match fs.root.get? location with
      | none => .error .missing
      | some (.directory _ []) =>
        if location = [] then .error .busy else .ok (fs.put location none)
      | some (.directory ..) => .error .notEmpty
      | some _ => .error .notDirectory
  | .rename source target => do
    let isSpecial (s : String) := lastSegment s = Name.current ∨ lastSegment s = Name.parent
    let origin ← fs.locate cwd (bare source) false
    let place ← fs.locate cwd (bare target) false
    if isSpecial source ∨ isSpecial target then .error .busy else fs.renameTo origin place
  | .hardLink source target => do
    let origin ← fs.locate cwd (path source) false
    let place ← fs.locate cwd (path target) false
    match fs.root.get? origin, fs.root.get? place with
    | none, _ => .error .missing
    | some (.directory ..), _ => .error .notPermitted
    | some _, some _ => .error .exists
    | some (.file n), none =>
      let fs := fs.modifyInode n fun i => { i with links := i.links + 1 }
      .ok (fs.put place (some (.file n)))
    | some node, none => .ok (fs.put place (some node))
  | .symbolicLink target p => fs.makeLink cwd (path p) (path target)
  | .setMode p mode => do
    match (← fs.find cwd (path p)).inode? with
    | some n => .ok (fs.modifyInode n fun i => { i with mode })
    | none => .ok fs
  | .setOwner p user group follow => do
    let node ← fs.lookup cwd (path p) follow
    -- a program does not run in the name of its old owner any longer
    let bits (mode : Nat) := if node.isDirectory then mode else mode &&& 1023
    match node.inode? with
    | some n => .ok (fs.modifyInode n fun i => { i with user, group, mode := bits i.mode })
    | none => .ok fs
  | .setTime p modified follow => do
    match (← fs.lookup cwd (path p) follow).inode? with
    | some n => .ok (fs.modifyInode n fun i => { i with modified })
    | none => .ok fs
  | .resize p size => do
    match ← fs.find cwd (path p) with
    | .file n => .ok (fs.resize n size)
    | .directory .. => .error .isDirectory
    | _ => .ok fs

end FileSystem

end Remedy.Files
