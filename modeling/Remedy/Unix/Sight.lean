import Remedy.Files.Status
import Remedy.Unix.Program

namespace Remedy.Unix

open Files

namespace View

def ofTarget (v : View) : Target → Status
  | .file n => Status.ofInode v.files .regular n
  | .directory location =>
    match v.files.root.get? location with
    | some node => Status.ofNode v.files node
    | none => Status.ofNode v.files (.link [])
  | .pipe | .sink =>
    { kind := .fifo, mode := 384, size := 0, modified := 0, links := 1, inode := 1 }
  | .device d => Status.ofNode v.files (.device d)

def status (v : View) (path : String) (follow : Bool) : Except Errno Status := do
  let node ← v.files.lookup v.cwd (FileSystem.path path) follow
  match node with
  | .device (.descriptor n) =>
    match v.descriptors.lookup n with
    | some target => if follow then .ok (v.ofTarget target) else .ok (Status.ofNode v.files node)
    | none => .error .missing
  | node => .ok (Status.ofNode v.files node)

def node (v : View) (path : String) (follow : Bool) : Except Errno Node :=
  v.files.lookup v.cwd (FileSystem.path path) follow

def location (v : View) (path : String) (follow : Bool) : Except Errno (List Name) :=
  v.files.locate v.cwd (FileSystem.path path) follow

def exists? (v : View) (path : String) : Bool := (v.node path true).toOption.isSome

def isDirectory (v : View) (path : String) : Bool :=
  match v.node path true with
  | .ok n => n.isDirectory
  | .error _ => false

def content (v : View) (path : String) : Except Errno String :=
  v.files.readFile v.cwd (FileSystem.path path)

def pathOf (location : List Name) : String :=
  match location with
  | [] => "/"
  | names => String.join (names.map fun n => "/" ++ Text.Octets.ofList n)

def directory (v : View) : String := pathOf v.cwd

def names (v : View) (path : String) : Except Errno (List String) := do
  match ← v.node path true with
  | .directory _ entries =>
    .ok ((entries.map fun e => Text.Octets.ofList e.1).mergeSort fun a b => decide (a ≤ b))
  | _ => .error .notDirectory

def program? (v : View) (directories : List String) (name : String) : Option String :=
  let candidates := directories.map fun d => if d == "" then name else d ++ "/" ++ name
  candidates.find? fun path =>
    match v.status path true with
    | .ok s => s.kind == .regular
    | .error _ => false

end View

end Remedy.Unix
