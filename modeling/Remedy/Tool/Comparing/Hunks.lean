import Remedy.Tool.Comparing.Basic

namespace Remedy.Tool.Comparing

open Unix Files Text.Difference

def showNormal (m : Manner) (s : Sides) (c : Stretch) : Tool Unit := do
  let letter := if c.removed = 0 then "a" else if c.added = 0 then "d" else "c"
  putLine (painted m .place (range c.old c.removed ++ letter ++ range c.new c.added))
  (slice s.old c.old c.removed).forM fun l => put (marked m .removed "< " l)
  if c.removed > 0 && c.added > 0 then putLine "---"
  (slice s.new c.new c.added).forM fun l => put (marked m .added "> " l)

def showScript (s : Sides) (c : Stretch) : Tool Unit := do
  let letter := if c.removed = 0 then "a" else if c.added = 0 then "d" else "c"
  putLine (range c.old c.removed ++ letter)
  if c.added > 0 then
    (slice s.new c.new c.added).forM fun l => do
      if l.1 == "." then put "..\n.\ns/.//\na\n" else putLine l.1
    putLine "."

def showForward (s : Sides) (c : Stretch) : Tool Unit := do
  if c.removed > 0 then putLine ("d" ++ toString (c.old + 1) ++ " " ++ toString c.removed)
  if c.added > 0 then
    putLine ("a" ++ toString (c.old + c.removed) ++ " " ++ toString c.added)
    (slice s.new c.new c.added).forM fun l => put (l.1 ++ if l.2 then "\n" else "")

def isIgnored (m : Manner) (s : Sides) (c : Stretch) : Bool :=
  let lines := slice s.old c.old c.removed ++ slice s.new c.new c.added
  let isTrivial (l : Line) : Bool :=
    (m.ignoresBlankLines && (if m.ignoresBlanks || m.mergesBlanks then l.1.toList.all isBlank
      else l.1 == "")) || m.ignored.any fun r => Regex.occurs r l.1
  (m.ignoresBlankLines || !m.ignored.isEmpty) && lines.all isTrivial

/-- Changes that are shown together, since little stands between them. -/
def hunks (context : Nat) : List Stretch → List (List Stretch)
  | [] => []
  | c :: rest =>
    match hunks context rest with
    | (d :: more) :: others =>
      if d.old - (c.old + c.removed) ≤ 2 * context then (c :: d :: more) :: others
      else [c] :: (d :: more) :: others
    | others => [c] :: others

/-- The lines that a hunk shows of both files: where they begin and how many there are. -/
structure Extent where
  old : Nat
  oldCount : Nat
  new : Nat
  newCount : Nat

def extent (m : Manner) (s : Sides) (h : List Stretch) : Extent :=
  match h, h.getLast? with
  | c :: _, some d =>
    let before := min m.context (min c.old c.new)
    let behind := min m.context (s.old.size - (d.old + d.removed))
    { old := c.old - before, oldCount := d.old + d.removed + behind - (c.old - before),
      new := c.new - before, newCount := d.new + d.added + behind - (c.new - before) }
  | _, _ => ⟨0, 0, 0, 0⟩

def unifiedRange (start count : Nat) : String :=
  if count = 0 then toString start ++ ",0"
  else if count = 1 then toString (start + 1)
  else toString (start + 1) ++ "," ++ toString count

/-- The line in front of a hunk that tells the part of the file it stands in. -/
def heading (m : Manner) (s : Sides) (start : Nat) : String :=
  match m.functions with
  | none => ""
  | some r =>
    match (slice s.old 0 start).reverse.find? fun l => Regex.occurs r l.1 with
    | some l => " " ++ String.ofList ((l.1.toList.dropWhile isBlank).take 40)
    | none => ""

def contextLine (m : Manner) (l : Line) : String :=
  marked m .plain (if m.hasBareBlanks && l.1 == "" then "" else " ") l

def showUnified (m : Manner) (s : Sides) (h : List Stretch) : Tool Unit := do
  let e := extent m s h
  putLine (painted m .place ("@@ -" ++ unifiedRange e.old e.oldCount ++ " +" ++
    unifiedRange e.new e.newCount ++ " @@") ++ heading m s e.old)
  let last ← h.foldlM (fun (place : Nat) c => do
    (slice s.old place (c.old - place)).forM fun l => put (contextLine m l)
    (slice s.old c.old c.removed).forM fun l => put (marked m .removed "-" l)
    (slice s.new c.new c.added).forM fun l => put (marked m .added "+" l)
    return c.old + c.removed) e.old
  (slice s.old last (e.old + e.oldCount - last)).forM fun l => put (contextLine m l)

def contextRange (start count : Nat) : String :=
  if count ≤ 1 then toString (start + count)
  else toString (start + 1) ++ "," ++ toString (start + count)

def showContext (m : Manner) (s : Sides) (h : List Stretch) : Tool Unit := do
  let e := extent m s h
  putLine ("***************" ++ heading m s e.old)
  putLine (painted m .place ("*** " ++ contextRange e.old e.oldCount ++ " ****"))
  let part (lines : Array Line) (start count : Nat) (place size : Stretch → Nat)
      (mark : String) (p : Paint) : Tool Unit := do
    let plain (l : Line) : Tool Unit :=
      put (marked m p (if m.hasBareBlanks && l.1 == "" then "" else "  ") l)
    let last ← h.foldlM (fun (at' : Nat) c => do
      (slice lines at' (place c - at')).forM plain
      let mark := if c.removed > 0 && c.added > 0 then "! " else mark
      (slice lines (place c) (size c)).forM fun l => put (marked m p mark l)
      return place c + size c) start
    (slice lines last (start + count - last)).forM plain
  if h.any (·.removed > 0) then part s.old e.old e.oldCount (·.old) (·.removed) "- " .removed
  putLine (painted m .place ("--- " ++ contextRange e.new e.newCount ++ " ----"))
  if h.any (·.added > 0) then part s.new e.new e.newCount (·.new) (·.added) "+ " .added

end Remedy.Tool.Comparing
