import Remedy.Files.Errno
import Remedy.Files.Node

namespace Remedy.Files

/-- What a file is apart from its places in the tree. -/
structure Inode where
  content : ByteArray := .empty
  mode : Nat := 420
  modified : Int := 0
  links : Nat := 1
  user : Nat := 0
  group : Nat := 0
deriving Inhabited

structure FileSystem where
  root : Node := .directory 0 []
  inodes : Array Inode := #[{ mode := 493 }]
  now : Int := 0
deriving Inhabited

namespace FileSystem

def slash : UInt8 := 47

/-- The greatest number of links followed on one path. -/
def maxLinks : Nat := 40

def maxName : Nat := 255

def path (s : String) : List UInt8 := Text.Octets.toList s

/-- The location that the segments lead to from a location. The last of them may be missing in its
directory, and is followed as a link only if `follow` says so. -/
def walk (fs : FileSystem) (follow : Bool) (links : Nat) (here : List Name)
    (segments : List Name) : Except Errno (List Name) :=
  match segments with
  | [] => .ok here
  | segment :: rest =>
    match fs.root.get? here with
    | none => .error .missing
    | some (.directory _ entries) =>
      if segment = [] ∨ segment = Name.current then fs.walk follow links here rest
      else if segment = Name.parent then fs.walk follow links here.dropLast rest
      else if segment.length > maxName then .error .nameTooLong
      else
        match entries.lookup segment with
        | none => if rest = [] then .ok (here ++ [segment]) else .error .missing
        | some (.link target) =>
          if rest = [] ∧ follow = false then .ok (here ++ [segment])
          else
            match links with
            | 0 => .error .tooManyLinks
            | links + 1 =>
              let start := if target.head? = some slash then [] else here
              fs.walk follow links start (Text.segments slash target ++ rest)
        | some _ => fs.walk follow links (here ++ [segment]) rest
    | some _ => .error .notDirectory
termination_by (links, segments.length)

def locate (fs : FileSystem) (cwd : List Name) (path : List UInt8) (follow : Bool) :
    Except Errno (List Name) :=
  if path = [] then .error .missing
  else
    let start := if path.head? = some slash then [] else cwd
    fs.walk follow maxLinks start (Text.segments slash path)

/-- The node that a path leads to; `follow` says whether a link at its end is followed. -/
def lookup (fs : FileSystem) (cwd : List Name) (path : List UInt8) (follow : Bool) :
    Except Errno Node := do
  match fs.root.get? (← fs.locate cwd path follow) with
  | some node => .ok node
  | none => .error .missing

def find (fs : FileSystem) (cwd : List Name) (path : List UInt8) : Except Errno Node :=
  fs.lookup cwd path true

def isFile (fs : FileSystem) (cwd : List Name) (path : List UInt8) : Bool :=
  match fs.find cwd path with
  | .ok node => node.isFile
  | .error _ => false

def isDirectory (fs : FileSystem) (cwd : List Name) (path : List UInt8) : Bool :=
  match fs.find cwd path with
  | .ok node => node.isDirectory
  | .error _ => false

def inode (fs : FileSystem) (n : Nat) : Inode := fs.inodes.getD n {}

def content (fs : FileSystem) (n : Nat) : String := Text.Octets.ofBytes (fs.inode n).content

/-- What the file under a path holds, as an octet text. -/
def readFile (fs : FileSystem) (cwd : List Name) (path : List UInt8) : Except Errno String := do
  match ← fs.find cwd path with
  | .file n => .ok (fs.content n)
  | .directory .. => .error .isDirectory
  | _ => .ok ""

def tick : Int := 4000000

def stampTime (fs : FileSystem) : Int := fs.now - fs.now % tick

def allocate (fs : FileSystem) (i : Inode) : Nat × FileSystem :=
  (fs.inodes.size, { fs with inodes := fs.inodes.push { i with modified := fs.stampTime } })

def modifyInode (fs : FileSystem) (n : Nat) (f : Inode → Inode) : FileSystem :=
  { fs with inodes := fs.inodes.modify n f }

def stamp (fs : FileSystem) (n : Nat) : FileSystem :=
  let now := fs.stampTime
  fs.modifyInode n fun i => { i with modified := now }

def put (fs : FileSystem) (location : List Name) (node : Option Node) : FileSystem :=
  let fs := { fs with root := fs.root.set node location }
  match (fs.root.get? location.dropLast).bind Node.inode? with
  | some n => fs.stamp n
  | none => fs

def createFile (fs : FileSystem) (location : List Name) (mode : Nat) : Nat × FileSystem :=
  let (n, fs) := fs.allocate { mode }
  (n, fs.put location (some (.file n)))

def createDirectory (fs : FileSystem) (location : List Name) (mode : Nat) : FileSystem :=
  let (n, fs) := fs.allocate { mode, links := 2 }
  fs.put location (some (.directory n []))

/-- Bytes with others written over them from an offset on; a gap is filled with zeros. -/
def overwrite (content : ByteArray) (offset : Nat) (data : ByteArray) : ByteArray :=
  if offset = content.size then content ++ data
  else if offset > content.size then
    content ++ ⟨Array.replicate (offset - content.size) 0⟩ ++ data
  else
    content.extract 0 offset ++ data ++ content.extract (offset + data.size) content.size

def writeAt (fs : FileSystem) (n : Nat) (offset : Nat) (data : ByteArray) : FileSystem :=
  let now := fs.stampTime
  fs.modifyInode n fun i =>
    let ⟨content, mode, _, links, user, group⟩ := i
    ⟨overwrite content offset data, mode, now, links, user, group⟩

def resize (fs : FileSystem) (n : Nat) (size : Nat) : FileSystem :=
  let now := fs.stampTime
  fs.modifyInode n fun i =>
    let content := if size ≤ i.content.size then i.content.extract 0 size
      else overwrite i.content size .empty
    { i with content, modified := now }

def writeFile (fs : FileSystem) (cwd : List Name) (path : List UInt8) (content : String) :
    Except Errno FileSystem := do
  let location ← fs.locate cwd path true
  let data := content.toUTF8
  match fs.root.get? location with
  | some (.directory ..) => .error .isDirectory
  | some (.file n) => .ok ((fs.resize n 0).writeAt n 0 data)
  | some _ => .ok fs
  | none =>
    let (n, fs) := fs.createFile location 420
    .ok (fs.writeAt n 0 data)

def makeLink (fs : FileSystem) (cwd : List Name) (path target : List UInt8) :
    Except Errno FileSystem := do
  let location ← fs.locate cwd path false
  match fs.root.get? location with
  | some _ => .error .exists
  | none => .ok (fs.put location (some (.link target)))

def makeDirectories (fs : FileSystem) (cwd : List Name) (path : List UInt8) :
    Except Errno FileSystem :=
  let start := if path.head? = some slash then [] else cwd
  let segments := Text.segments slash path
  let parents := (List.range segments.length).map fun n => segments.take (n + 1)
  parents.foldlM (fun fs segments => do
    let location ← fs.walk true maxLinks start segments
    match fs.root.get? location with
    | some (.directory ..) => .ok fs
    | some _ => .error .notDirectory
    | none => .ok (fs.createDirectory location 493)) fs

def parentOf (path : List UInt8) : List UInt8 :=
  (path.reverse.dropWhile (· ≠ slash)).reverse

end FileSystem

end Remedy.Files
