import Remedy.Text.Segments
import Remedy.Text.Utf8

namespace Remedy.Files

/-- A file name in octets; in a tree it is not empty, no `.` or `..`, and holds no slash. -/
abbrev Name := List UInt8

namespace Name

def ofString (s : String) : Name := Text.Utf8.encode s.toList

def current : Name := [46]

def parent : Name := [46, 46]

end Name

inductive Device where
  | null
  | zero
  | full
  | random
  | terminal
  /-- Whatever the process that opens it holds under the number. -/
  | descriptor (number : Nat)
deriving DecidableEq, Repr

inductive Node where
  | file (inode : Nat)
  | directory (inode : Nat) (entries : List (Name × Node))
  | link (target : List UInt8)
  | device (device : Device)
  | fifo (inode : Nat)
deriving Repr, Inhabited

namespace Node

def isFile : Node → Bool
  | .file _ => true
  | _ => false

def isDirectory : Node → Bool
  | .directory .. => true
  | _ => false

def isLink : Node → Bool
  | .link _ => true
  | _ => false

def entries : Node → List (Name × Node)
  | .directory _ entries => entries
  | _ => []

def inode? : Node → Option Nat
  | .file n | .directory n _ | .fifo n => some n
  | .link _ | .device _ => none

def child? (n : Node) (name : Name) : Option Node := n.entries.lookup name

def get? (n : Node) : List Name → Option Node
  | [] => some n
  | name :: rest => (n.child? name).bind (·.get? rest)

/-- The entries with the one under `name` replaced, added at the end or taken away. -/
def setEntry (entries : List (Name × Node)) (name : Name) : Option Node → List (Name × Node)
  | none => entries.filter (·.1 != name)
  | some node =>
    if entries.any (·.1 == name) then
      entries.map fun e => if e.1 == name then (name, node) else e
    else entries ++ [(name, node)]

/-- Puts a node at a location or takes the one there away; a location whose directory is missing
is left alone, and so is the top. -/
def set (n : Node) (node : Option Node) : List Name → Node
  | [] => node.getD n
  | name :: rest =>
    match n with
    | .directory inode entries =>
      match rest, entries.lookup name with
      | [], _ => .directory inode (setEntry entries name node)
      | _, some inner => .directory inode (setEntry entries name (some (inner.set node rest)))
      | _, none => n
    | _ => n

mutual

/-- The locations of the regular files below a node, the entries of every directory in the order of
their names. -/
def files : Node → List (List Name)
  | .file _ => [[]]
  | .directory _ entries =>
    ((entryFiles entries).mergeSort fun a b => decide (a.1 ≤ b.1)).flatMap (·.2)
  | .link _ | .device _ | .fifo _ => []

def entryFiles : List (Name × Node) → List (Name × List (List Name))
  | [] => []
  | (name, node) :: rest => (name, node.files.map (name :: ·)) :: entryFiles rest

end

end Node

end Remedy.Files
