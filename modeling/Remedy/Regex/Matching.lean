import Remedy.Regex.Syntax

namespace Remedy.Regex

inductive Step where
  | take (s : CharSet)
  | anchor (a : Anchor)
  | fork (a b : Nat)
  | jump (a : Nat)
  | save (n : Nat)
  | back (n : Nat)
  | finish
deriving Inhabited

def steps : Regex → Nat → List Step
  | .empty, _ => []
  | .set s, _ => [.take s]
  | .anchor a, _ => [.anchor a]
  | .back n, _ => [.back n]
  | .seq a b, start =>
    let first := steps a start
    first ++ steps b (start + first.length)
  | .alt a b, start =>
    let first := steps a (start + 1)
    let second := start + 2 + first.length
    let rest := steps b second
    .fork (start + 1) second :: first ++ .jump (second + rest.length) :: rest
  | .group n r, start => .save (2 * n) :: steps r (start + 1) ++ [.save (2 * n + 1)]
  | .many r least most, start =>
    -- every copy has the size of the first one
    let size := (steps r 0).length
    let required := (List.range least).flatMap fun i => steps r (start + i * size)
    let start := start + least * size
    match most with
    | none =>
      required ++ .fork (start + 1) (start + size + 2) :: steps r (start + 1) ++ [.jump start]
    | some most =>
      let extra := most - least
      let finish := start + extra * (size + 1)
      required ++ (List.range extra).flatMap fun i =>
        let here := start + i * (size + 1)
        .fork (here + 1) finish :: steps r (here + 1)

structure Compiled where
  steps : Array Step
  groups : Nat
  hasBack : Bool
deriving Inhabited

def compile (r : Regex) : Compiled :=
  { steps := (steps r 0 ++ [Step.finish]).toArray, groups := r.groups, hasBack := r.hasBack }

/-- The expression without what its groups match, where that need not be known. -/
def Compiled.withoutGroups (p : Compiled) : Compiled :=
  if p.hasBack then p else { p with groups := 0 }

structure Edges where
  multiline : Bool := false
  startsLine : Bool := true
deriving Inhabited

def isWordChar (c : Char) : Bool := c.isAlphanum || c == '_'

def holds (e : Edges) (text : Array Char) (i : Nat) (a : Anchor) : Bool :=
  let before := if i = 0 then none else text[i - 1]?
  let after := text[i]?
  let isWord (c : Option Char) := c.any isWordChar
  match a with
  | .lineStart => (i = 0 && e.startsLine) || (e.multiline && before == some '\n')
  | .lineEnd => i = text.size || (e.multiline && after == some '\n')
  | .textStart => i = 0
  | .textEnd => i = text.size
  | .wordStart => !isWord before && isWord after
  | .wordEnd => isWord before && !isWord after
  | .wordEdge => isWord before != isWord after
  | .notWordEdge => isWord before == isWord after
  | .notAfterWord => !isWord before
  | .notBeforeWord => !isWord after

/-- The places in the steps that can be reached without a character. -/
def closure (p : Compiled) (e : Edges) (text : Array Char) (i : Nat) :
    Nat → List Nat → ByteArray → List Nat → List Nat × Bool
  | 0, _, _, found => (found, false)
  | _, [], _, found => (found, false)
  | fuel + 1, pc :: todo, marks, found =>
    if marks.get! pc = 1 then closure p e text i fuel todo marks found
    else
      let marks := marks.set! pc 1
      match p.steps.getD pc .finish with
      | .finish =>
        let (found, _) := closure p e text i fuel todo marks found
        (found, true)
      | .take _ => closure p e text i fuel todo marks (pc :: found)
      | .anchor a =>
        if holds e text i a then closure p e text i fuel ((pc + 1) :: todo) marks found
        else closure p e text i fuel todo marks found
      | .fork a b => closure p e text i fuel (a :: b :: todo) marks found
      | .jump a => closure p e text i fuel (a :: todo) marks found
      | .save _ => closure p e text i fuel ((pc + 1) :: todo) marks found
      | .back _ => closure p e text i fuel todo marks found

def longestFrom (p : Compiled) (e : Edges) (text : Array Char) (blank : ByteArray) :
    Nat → Nat → List Nat → Option Nat → Option Nat
  | 0, _, _, best => best
  | fuel + 1, i, places, best =>
    let (reached, isDone) := closure p e text i (3 * p.steps.size + 3) places blank []
    let best := if isDone then some i else best
    match text[i]? with
    | none => best
    | some c =>
      let next := reached.filterMap fun pc =>
        match p.steps.getD pc .finish with
        | .take s => if s.has c then some (pc + 1) else none
        | _ => none
      if next.isEmpty then best else longestFrom p e text blank fuel (i + 1) next best

structure Way where
  pc : Nat
  place : Nat
  saved : Array (Option Nat)

/-- Tries ways one after another; the first one that gets through, to `goal` if there is one, tells
what the groups matched. -/
def tryWays (p : Compiled) (e : Edges) (text : Array Char) (goal : Option Nat) :
    Nat → ByteArray → List Way → Option (Nat × Array (Option Nat))
  | 0, _, _ => none
  | _, _, [] => none
  | fuel + 1, marks, w :: todo =>
    let key := w.pc * (text.size + 1) + w.place
    if !p.hasBack && marks.get! key = 1 then tryWays p e text goal fuel marks todo
    else
      let marks := if p.hasBack then marks else marks.set! key 1
      let next (w : Way) := tryWays p e text goal fuel marks (w :: todo)
      let fails := tryWays p e text goal fuel marks
      match p.steps.getD w.pc .finish with
      | .finish => if goal.all (· = w.place) then some (w.place, w.saved) else fails todo
      | .take s =>
        match text[w.place]? with
        | some c =>
          if s.has c then next { w with pc := w.pc + 1, place := w.place + 1 } else fails todo
        | none => fails todo
      | .anchor a =>
        if holds e text w.place a then next { w with pc := w.pc + 1 } else fails todo
      | .fork a b => fails ({ w with pc := a } :: { w with pc := b } :: todo)
      | .jump a => next { w with pc := a }
      | .save n =>
        next { w with pc := w.pc + 1, saved := w.saved.setIfInBounds n (some w.place) }
      | .back n =>
        match w.saved.getD (2 * n) none, w.saved.getD (2 * n + 1) none with
        | some a, some b =>
          let piece := text.extract a b
          if text.extract w.place (w.place + piece.size) == piece then
            next { w with pc := w.pc + 1, place := w.place + piece.size }
          else fails todo
        | _, _ => fails todo

structure Found where
  start : Nat
  stop : Nat
  groups : Array (Option (Nat × Nat)) := #[]
deriving Inhabited

namespace Found

def group? (f : Found) (n : Nat) : Option (Nat × Nat) :=
  if n = 0 then some (f.start, f.stop) else f.groups.getD (n - 1) none

end Found

def maxWays : Nat := 1000000

def matchAt? (p : Compiled) (e : Edges) (text : Array Char) (start : Nat) : Option Found :=
  let size := p.steps.size
  let saved := Array.replicate (2 * p.groups + 2) (none : Option Nat)
  let groups (saved : Array (Option Nat)) : Array (Option (Nat × Nat)) :=
    ((List.range p.groups).map fun n =>
      match saved.getD (2 * n + 2) none, saved.getD (2 * n + 3) none with
      | some a, some b => some (a, b)
      | _, _ => none).toArray
  if p.hasBack then
    (tryWays p e text none maxWays .empty [⟨0, start, saved⟩]).map fun (stop, saved) =>
      { start, stop, groups := groups saved }
  else
    let blank : ByteArray := ⟨Array.replicate size 0⟩
    match longestFrom p e text blank (text.size + 1 - start) start [0] none with
    | none => none
    | some stop =>
      if p.groups = 0 then some { start, stop }
      else
        let marks : ByteArray := ⟨Array.replicate (size * (text.size + 1)) 0⟩
        let fuel := 2 * size * (text.size + 1) + 2
        match tryWays p e text (some stop) fuel marks [⟨0, start, saved⟩] with
        | some (_, saved) => some { start, stop, groups := groups saved }
        | none => some { start, stop }

def searchFrom (p : Compiled) (e : Edges) (text : Array Char) : Nat → Nat → Option Found
  | 0, _ => none
  | fuel + 1, start =>
    match matchAt? p e text start with
    | some found => some found
    | none => if start ≥ text.size then none else searchFrom p e text fuel (start + 1)

def search? (p : Compiled) (e : Edges) (text : Array Char) (start : Nat) : Option Found :=
  searchFrom p e text (text.size + 1 - start) start

def occurs (p : Compiled) (s : String) : Bool :=
  (search? p.withoutGroups {} s.toList.toArray 0).isSome

end Remedy.Regex
