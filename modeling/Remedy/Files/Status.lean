import Remedy.Files.FileSystem

namespace Remedy.Files

inductive Kind where
  | regular
  | directory
  | link
  | fifo
  | character
deriving DecidableEq, Repr

structure Status where
  kind : Kind
  mode : Nat
  size : Nat
  modified : Int
  links : Nat
  /-- The number under which the file is known; what has none of its own shares the zero. -/
  inode : Nat
  user : Nat := 0
  group : Nat := 0
deriving Repr

namespace Status

def directorySize : Nat := 4096

def ofInode (fs : FileSystem) (kind : Kind) (n : Nat) : Status :=
  let i := fs.inode n
  { kind
    mode := i.mode
    size := if kind = .directory then directorySize else i.content.size
    modified := i.modified
    links := i.links
    inode := n
    user := i.user
    group := i.group }

/-- The status of a file. Links and devices have no time of their own; they are always new. -/
def ofNode (fs : FileSystem) : Node → Status
  | .file n => ofInode fs .regular n
  | .directory n entries =>
    { ofInode fs .directory n with
      links := 2 + entries.countP (·.2.isDirectory) }
  | .fifo n => ofInode fs .fifo n
  | .link target =>
    { kind := .link
      mode := 511
      size := target.length
      modified := fs.now
      links := 1
      inode := 0 }
  | .device _ =>
    { kind := .character, mode := 438, size := 0, modified := fs.now, links := 1, inode := 0 }

def isExecutable (s : Status) : Bool := s.mode &&& 73 != 0

def letters (s : Status) : String :=
  let kind := match s.kind with
    | .regular => '-'
    | .directory => 'd'
    | .link => 'l'
    | .fifo => 'p'
    | .character => 'c'
  let has (bit : Nat) : Bool := s.mode &&& bit != 0
  let triple (read write execute special : Nat) (mark : Char) : List Char :=
    [if has read then 'r' else '-', if has write then 'w' else '-',
      if has special then if has execute then mark else mark.toUpper
      else if has execute then 'x' else '-']
  String.ofList (kind :: triple 256 128 64 2048 's' ++ triple 32 16 8 1024 's' ++
    triple 4 2 1 512 't')

def kindName (s : Status) : String :=
  match s.kind with
  | .regular => if s.size = 0 then "regular empty file" else "regular file"
  | .directory => "directory"
  | .link => "symbolic link"
  | .fifo => "fifo"
  | .character => "character special file"

end Status

end Remedy.Files
