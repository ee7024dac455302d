import Remedy.Regex.Matching
import Remedy.Text.Difference
import Remedy.Tool.Input
import Std.Data.HashMap

namespace Remedy.Tool.Comparing

open Unix Files Text.Difference

/-- Complains, points to the help under its name and ends. -/
def refuse (message : String) : Tool α := do
  complain message
  let name := (← get).name
  writeError (name ++ ": Try '" ++ name ++ " --help' for more information.\n")
  setStatus 2
  stop

/-- Options and operands; a bad option is told under the name of the tool. -/
def given (options : List Opt) (words : List String) : Tool Given := do
  match readOptions options false (words.length + 1) words with
  | .ok g => return g
  | .error e => refuse e.message

inductive Style where
  | normal
  | unified
  | context
  | script
  | forward
  | columns
  | formatted
  | brief
deriving DecidableEq, Repr

structure Formats where
  oldLine : String := "%l\n"
  newLine : String := "%l\n"
  sameLine : String := "%l\n"
  old : String := "%<"
  new : String := "%>"
  same : String := "%="
  changed : String := "%<%>"

structure Manner where
  style : Style := .normal
  context : Nat := 3
  labels : List String := []
  ignoresCase : Bool := false
  mergesBlanks : Bool := false
  ignoresBlanks : Bool := false
  ignoresTrailing : Bool := false
  ignoresBlankLines : Bool := false
  ignored : List Regex.Compiled := []
  stripsReturns : Bool := false
  isText : Bool := false
  tellsSame : Bool := false
  isRecursive : Bool := false
  takesMissing : Bool := false
  takesMissingFirst : Bool := false
  firstName : Option String := none
  excluded : List String := []
  expandsTabs : Bool := false
  initialTab : Bool := false
  tab : Nat := 8
  horizon : Nat := 0
  formats : Formats := {}
  isColoured : Bool := false
  hasBareBlanks : Bool := false
  width : Nat := 130
  leftColumn : Bool := false
  suppressesCommon : Bool := false
  functions : Option Regex.Compiled := none
  words : List String := []

abbrev Line := String × Bool

def linesWithEnds (m : Manner) (text : String) : Array Line :=
  let (lines, isEnded) := linesOf text
  let count := lines.length
  let strip (s : String) : String :=
    if m.stripsReturns && s.endsWith "\r" then String.ofList s.toList.dropLast else s
  (lines.zipIdx.map fun (s, i) => (strip s, isEnded || i + 1 < count)).toArray

def isBlank (c : Char) : Bool := c == ' ' || ('\t' ≤ c && c ≤ '\r')

def merged : List Char → Bool → List Char
  | [], _ => []
  | c :: rest, inBlanks =>
    if isBlank c then (if inBlanks then merged rest true else ' ' :: merged rest true)
    else c :: merged rest false

def key (m : Manner) (l : Line) : String × Bool :=
  let cs := l.1.toList
  let cs := if m.ignoresBlanks then cs.filter (!isBlank ·)
    else if m.mergesBlanks then (((merged cs false).reverse).dropWhile (· == ' ')).reverse
    else if m.ignoresTrailing then ((cs.reverse).dropWhile isBlank).reverse
    else cs
  let cs := if m.ignoresCase then cs.map Char.toLower else cs
  let endCounts := !(m.ignoresBlanks || m.mergesBlanks || m.ignoresTrailing)
  (String.ofList cs, l.2 || !endCounts)

def numbered (m : Manner) (a b : Array Line) : Array Nat × Array Nat :=
  let step (state : Std.HashMap (String × Bool) Nat × Array Nat) (l : Line) :=
    let (table, out) := state
    let k := key m l
    match table[k]? with
    | some n => (table, out.push n)
    | none => (table.insert k table.size, out.push table.size)
  let (table, x) := a.foldl step (({} : Std.HashMap (String × Bool) Nat), #[])
  let (_, y) := b.foldl step (table, #[])
  (x, y)

structure Sides where
  old : Array Line
  new : Array Line

def missingEnd : String := "\\ No newline at end of file\n"

inductive Paint where
  | heading
  | place
  | removed
  | added
  | plain
deriving DecidableEq, Repr

def painted (m : Manner) (p : Paint) (text : String) : String :=
  let wrap (code : String) : String := "\x1b[" ++ code ++ "m" ++ text ++ "\x1b[0m"
  if !m.isColoured then text
  else
    match p with
    | .heading => wrap "1"
    | .place => wrap "36"
    | .removed => wrap "31"
    | .added => wrap "32"
    | .plain => text

def marked (m : Manner) (p : Paint) (mark : String) (l : Line) : String :=
  let text := if m.expandsTabs then
      String.ofList ((l.1.toList.foldl (fun (out, column) c =>
        if c == '\t' then
          let n := m.tab - column % m.tab
          (List.replicate n ' ' ++ out, column + n)
        else (c :: out, column + 1)) (([] : List Char), 0)).1.reverse)
    else l.1
  let mark := if m.initialTab then String.ofList (mark.toList.reverse.dropWhile (· == ' ')).reverse ++ "\t"
    else mark
  painted m p (mark ++ text) ++ "\n" ++ if l.2 then "" else missingEnd

def slice (lines : Array Line) (start count : Nat) : List Line :=
  (lines.extract start (start + count)).toList

def range (start count : Nat) : String :=
  if count = 0 then toString start
  else if count = 1 then toString (start + 1)
  else toString (start + 1) ++ "," ++ toString (start + count)

end Remedy.Tool.Comparing
