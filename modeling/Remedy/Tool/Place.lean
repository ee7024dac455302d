import Remedy.Tool.Basic

namespace Remedy.Tool.Place

open Unix Files

inductive Presence where
  | all
  | allButLast
  | nothing
deriving DecidableEq, Repr

def resolveLoosely (v : View) : Nat → List Name → List Name → List Name
  | 0, here, _ => here
  | _, here, [] => here
  | n + 1, here, name :: rest =>
    if name = [] ∨ name = Name.current then resolveLoosely v n here rest
    else if name = Name.parent then resolveLoosely v n here.dropLast rest
    else
      match v.files.walk true FileSystem.maxLinks here [name] with
      | .ok location => resolveLoosely v n location rest
      | .error _ => resolveLoosely v n (here ++ [name]) rest

def canonical (v : View) (path : String) (p : Presence) : Except Errno (List Name) := do
  if path == "" then .error .missing
  else
    match p with
    | .nothing =>
      let segments := Text.segments FileSystem.slash (FileSystem.path path)
      .ok (resolveLoosely v (segments.length + 1) (if path.startsWith "/" then [] else v.cwd)
        segments)
    | .allButLast =>
      let l ← v.location (withoutSlashes path) true
      if path.endsWith "/" && (v.files.root.get? l).any (!·.isDirectory) then .error .notDirectory
      else .ok l
    | .all =>
      let _ ← v.status path true
      v.location path true

def relative (directory target : List Name) : String :=
  let rec shared : List Name → List Name → Nat
    | a :: as, b :: bs => if a == b then shared as bs + 1 else 0
    | _, _ => 0
  let n := shared directory target
  let up := List.replicate (directory.length - n) ".."
  let down := (target.drop n).map Text.Octets.ofList
  match up ++ down with
  | [] => "."
  | names => "/".intercalate names

def parent (path : String) : String :=
  let bare := path.toList.reverse.dropWhile (· == '/')
  let behind := bare.dropWhile (· ≠ '/')
  let above := (behind.dropWhile (· == '/')).reverse
  if bare.isEmpty then if path == "" then "." else "/"
  else if behind.isEmpty then "."
  else if above.isEmpty then "/"
  else String.ofList above

def isSameEntry (v : View) (a b : String) : Bool :=
  match v.location (withoutSlashes a) false, v.location (withoutSlashes b) false with
  | .ok a, .ok b => a == b
  | _, _ => false

inductive Identity where
  | inode (n : Nat)
  | entry (location : List Name)
deriving DecidableEq, Repr

def identity? (v : View) (path : String) (follow : Bool) : Option Identity :=
  match v.node path follow with
  | .error _ => none
  | .ok node =>
    match node.inode? with
    | some n => some (.inode n)
    | none => (v.location path follow).toOption.map .entry

def notDirectory? (v : View) (path : String) (follow : Bool := true) : Option Errno :=
  match v.node path follow with
  | .error e => some e
  | .ok n => if n.isDirectory then none else some .notDirectory

end Remedy.Tool.Place
