import Remedy.Tool.Comparing.Basic

namespace Remedy.Tool.Comparing

open Unix Files Text.Difference

def gap (m : Manner) (start stop : Nat) : String :=
  if m.expandsTabs then "".pushn ' ' (stop - start)
  else
    let tabs := stop / m.tab - start / m.tab
    if tabs > 0 then "".pushn '\t' tabs ++ "".pushn ' ' (stop % m.tab)
    else "".pushn ' ' (stop - start)

def half (m : Manner) (indent bound : Nat) (s : String) : String × Nat :=
  let step (state : List Char × Nat × Nat) (c : Char) : List Char × Nat × Nat :=
    let (out, inner, outer) := state
    if c == '\t' then
      let width := m.tab - inner % m.tab
      if inner = outer then
        let target := min (outer + width) bound
        if m.expandsTabs then (List.replicate (target - outer) ' ' ++ out, inner + width, target)
        else if outer + width ≤ bound then ('\t' :: out, inner + width, outer + width)
        else (out, inner + width, outer)
      else (out, inner + width, outer)
    else if inner < bound then (c :: out, inner + 1, inner + 1)
    else (out, inner + 1, outer)
  let (out, _, outer) := s.toList.foldl step ([], 0, 0)
  (String.ofList out.reverse, indent + outer)

def columnWidths (m : Manner) : Nat × Nat :=
  let t := if m.expandsTabs then 1 else m.tab
  let w := m.width
  let both := t + 3
  let start := w / 2 + both / 2 + (if w % 2 = 1 && both % 2 = 1 then 1 else 0)
  let start := start - start % t
  let width := min (start - 3) (w - start)
  (width, if width = 0 then w else start)

def row (m : Manner) (left right : Option Line) (mark : Char) : String :=
  let (width, second) := columnWidths m
  let (text, column) := match left with
    | some l => half m 0 width l.1
    | none => ("", 0)
  let isEnded := left.any (·.2) || right.any (·.2)
  let middle := (width + second - 1) / 2
  let mark := match left, right with
    | some l, some r => if mark == '|' && l.2 != r.2 then (if l.2 then '/' else '\\') else mark
    | _, _ => mark
  let (text, column) := if mark == ' ' then (text, column)
    else (text ++ gap m column middle ++ String.singleton mark, middle + 1)
  let text := match right with
    | some r =>
      if r.1 != "" then text ++ gap m column second ++ (half m second width r.1).1 else text
    | none => text
  text ++ if isEnded then "\n" else ""

def showColumns (m : Manner) (s : Sides) (changes : List Stretch) : Tool Unit := do
  let common (i j count : Nat) : Tool Unit := do
    unless m.suppressesCommon do
      ((slice s.old i count).zip (slice s.new j count)).forM fun (l, r) =>
        put (if m.leftColumn then row m (some l) none '(' else row m (some l) (some r) ' ')
  let (i, j) ← changes.foldlM (fun (i, j) c => do
    common i j (c.old - i)
    let old := slice s.old c.old c.removed
    let new := slice s.new c.new c.added
    (old.zip new).forM fun (l, r) => put (row m (some l) (some r) '|')
    (old.drop new.length).forM fun l => put (painted m .removed (row m (some l) none '<'))
    (new.drop old.length).forM fun r => put (painted m .added (row m none (some r) '>'))
    return (c.old + c.removed, c.new + c.added)) (0, 0)
  common i j (max (s.old.size - i) (s.new.size - j))

end Remedy.Tool.Comparing
