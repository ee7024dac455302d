import Remedy.Shell.Command
import Remedy.Unix.Program

namespace Remedy.Shell

open Unix

structure Variable where
  value : Option String := none
  isExported : Bool := false
  isReadOnly : Bool := false
  elements : Option (List (String × String)) := none
  isKeyed : Bool := false
  isInteger : Bool := false

structure Job where
  number : Nat
  /-- The processes in order; the job ends like the last one. -/
  pids : List Nat
  ended : List (Nat × Exit) := []
  wasAwaited : Bool := false

namespace Job

def isDone (j : Job) : Bool := j.pids.all fun p => (j.ended.lookup p).isSome

def exit (j : Job) : Exit := (j.pids.getLast?.bind fun p => j.ended.lookup p).getD (.code 0)

end Job

structure OptionCursor where
  index : Nat := 1
  /-- Where the next letter stands in its operand; zero between two operands. -/
  offset : Nat := 0

structure State where
  dialect : Dialect := .plain
  name : String
  positional : List String := []
  bindings : List (String × Variable) := []
  hidden : List (List (String × Option Variable)) := []
  functions : List (String × Nat × Command) := []
  aliases : List (String × String) := []
  documents : List (Nat × Word) := []
  nextDocument : Nat := 0
  options : List Char := []
  features : List String := []
  traps : List (Signal × String) := []
  status : Nat := 0
  line : Nat := 1
  command : Option String := none
  pid : Nat := 0
  background : Option Nat := none
  jobs : List Job := []
  pendingSignals : List Signal := []
  /-- How many loops, calls of functions and read files the command stands in. -/
  loops : Nat := 0
  calls : Nat := 0
  files : Nat := 0
  cursor : OptionCursor := {}
  isCopy : Bool := false
  directory : String := "/"
  random : Nat := 1
  substituted : Nat := 0
  pipeStatus : List Nat := []
  known : List (String × String) := []
  limits : List (Char × String) := []
  traceTo : Nat := 2

/-- Why the commands that follow are not run. -/
inductive Jump where
  /-- Leaves so many loops; the last of them may go on with its next turn. -/
  | leave (loops : Nat) (continues : Bool)
  | return
  | exit
  /-- An error that was told; it ends a shell, unless an ordinary builtin made it. -/
  | failure
deriving DecidableEq, Repr

abbrev ShellM := ExceptT Jump (StateT State Act)

namespace State

def isOn (s : State) (letter : Char) : Bool := s.options.contains letter

def setOption (s : State) (letter : Char) (on : Bool) : State :=
  let others := s.options.filter (· ≠ letter)
  { s with options := if on then letter :: others else others }

def has (s : State) (feature : String) : Bool := s.features.contains feature

def binding? (s : State) (name : String) : Option Variable := s.bindings.lookup name

def setBinding (s : State) (name : String) (v : Option Variable) : State :=
  match v with
  | none => { s with bindings := s.bindings.filter (·.1 ≠ name) }
  | some v =>
    if s.bindings.any (·.1 == name) then
      { s with bindings := s.bindings.map fun b => if b.1 == name then (name, v) else b }
    else { s with bindings := (name, v) :: s.bindings }

def splitName (name : String) : String × Option String :=
  let cs := name.toList
  let base := cs.takeWhile (· ≠ '[')
  match cs.drop base.length with
  | '[' :: rest => (String.ofList base, some (String.ofList (rest.takeWhile (· ≠ ']'))))
  | _ => (name, none)

def value? (s : State) (name : String) : Option String :=
  let (base, index) := splitName name
  match s.binding? base, index with
  | none, _ => none
  | some v, none =>
    match v.elements with
    | some elements => elements.lookup "0"
    | none => v.value
  | some v, some i =>
    match v.elements with
    | some elements => elements.lookup i
    | none => if i == "0" then v.value else none

def value (s : State) (name : String) : String := (s.value? name).getD ""

/-- Where a name stands in a table of so many rows, by the numbers of its octets. -/
def row (rows : Nat) (name : String) : Nat :=
  let octets := name.toList.map Char.toNat
  (octets.foldl (· + ·) (16 * octets.headD 0)) % rows

def byRow (rows : Nat) (xs : List (String × α)) : List (String × α) :=
  xs.mergeSort fun a b => decide (row rows a.1 ≤ row rows b.1)

def variableRows : Nat := 39

def environment (s : State) : List (String × String) :=
  let all := s.bindings.reverse.filterMap fun (name, v) =>
    if v.isExported && v.elements.isNone then v.value.map (name, ·) else none
  if s.dialect == .plain then byRow variableRows all else all

def separators (s : State) : String := (s.value? "IFS").getD " \t\n"

def joint (s : State) : String :=
  match (s.separators).toList with
  | [] => ""
  | c :: _ => String.singleton c

def defaultPath : String := "/usr/local/sbin:/usr/local/bin:/usr/sbin:/usr/bin:/sbin:/bin"

def searchPath (s : State) : List String :=
  (Text.segments ':' (s.value "PATH").toList).map String.ofList

def insertElement (isKeyed : Bool) (index value : String) :
    List (String × String) → List (String × String)
  | [] => [(index, value)]
  | (i, v) :: rest =>
    if i == index then (index, value) :: rest
    else if !isKeyed && index.toNat?.getD 0 < i.toNat?.getD 0 then (index, value) :: (i, v) :: rest
    else (i, v) :: insertElement isKeyed index value rest

/-- The state after a variable or an element was given a text, whatever it was. -/
def store (s : State) (name text : String) : State :=
  let (base, index) := splitName name
  let v := (s.binding? base).getD {}
  let v := { v with isExported := v.isExported || s.isOn 'a' }
  match v.elements, index with
  | none, none => s.setBinding base (some { v with value := some text })
  | some es, none =>
    s.setBinding base (some { v with elements := some (insertElement v.isKeyed "0" text es) })
  | es, some i =>
    let es := es.getD (match v.value with
      | some old => [("0", old)]
      | none => [])
    s.setBinding base (some { v with
      value := none, elements := some (insertElement v.isKeyed i text es) })

end State

namespace ShellM

def sys (r : Request) : ShellM r.Answer := fun s next => Act.ask r fun a => next (.ok a, s)

def act (a : Act α) : ShellM α := fun s next => a fun x => next (.ok x, s)

def fork (child : State → Program) : ShellM Nat := fun s next =>
  .fork (child s) fun pid => next (.ok pid, s)

def look : ShellM View := sys .look

def writeTo (fd : Nat) (text : String) : ShellM Bool := do
  match ← act (Act.writeTo fd text) with
  | .ok _ => return true
  | .error _ => return false

def complaintHead : ShellM String := do
  let s ← get
  match s.dialect with
  | .plain =>
    let command := match s.command with
      | some c => c ++ ": "
      | none => ""
    return s.name ++ ": " ++ toString s.line ++ ": " ++ command
  | .extended =>
    let command := match s.command with
      | some c => c ++ ": "
      | none => ""
    return s.name ++ ": line " ++ toString s.line ++ ": " ++ command

def warn (message : String) : ShellM Unit := do
  let _ ← writeTo 2 ((← complaintHead) ++ message ++ "\n")

def setStatus (n : Nat) : ShellM Unit := modify ({ · with status := n })

def fail (message : String) : ShellM α := do
  warn message
  setStatus (if (← get).dialect == .plain then 2 else 1)
  throw .failure

def isExtended : ShellM Bool := return (← get).dialect == .extended

def assign (name text : String) : ShellM Unit := do
  let s ← get
  let (base, _) := State.splitName name
  if (s.binding? base).any (·.isReadOnly) then
    fail (base ++ ": " ++ (if s.dialect == .plain then "is read only" else "readonly variable"))
  else
    let s := s.store name text
    -- reading options starts anew where their cursor is set, and so does the search of programs
    let s := if name == "OPTIND" then
      { s with cursor := { index := max 1 (text.toNat?.getD 1) } } else s
    set (if name == "PATH" then { s with known := [] } else s)

def caught (step : ShellM α) : ShellM (Except Jump α) := fun s next =>
  step s fun (r, s) => next (.ok r, s)

/-- Runs a step; however it ends, another step comes after it. -/
def ensuring (step : ShellM α) (after : ShellM Unit) : ShellM α := do
  match ← caught step with
  | .ok a =>
    after
    return a
  | .error j =>
    after
    throw j

end ShellM

namespace Scope

def optionsName : String := "-"

def enter : ShellM Unit := modify fun s => { s with hidden := [] :: s.hidden }

/-- Keeps aside what a name means, unless that was done in the scope. -/
def hide (name : String) : ShellM Unit := modify fun s =>
  match s.hidden with
  | [] => s
  | scope :: rest =>
    if scope.any (·.1 == name) then s
    else
      let meaning := if name == optionsName then some { value := some (String.ofList s.options) }
        else s.binding? name
      { s with hidden := ((name, meaning) :: scope) :: rest }

/-- Leaves the innermost scope; the names mean what they meant before. -/
def leave : ShellM Unit := modify fun s =>
  match s.hidden with
  | [] => s
  | scope :: rest =>
    let back := scope.foldl (fun s (name, meaning) =>
      if name == optionsName then { s with options := ((meaning.bind (·.value)).getD "").toList }
      else s.setBinding name meaning) s
    { back with hidden := rest }

def mark (name : String) (f : Variable → Variable) : ShellM Unit := modify fun s =>
  s.setBinding name (some (f ((s.binding? name).getD {})))

/-- Gives a variable of the innermost scope a text that programs are told. -/
def assignExported (name text : String) : ShellM Unit := do
  hide name
  ShellM.assign name text
  mark (State.splitName name).1 ({ · with isExported := true })

end Scope

end Remedy.Shell
