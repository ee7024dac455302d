import Remedy.Shell.Redirecting
import Remedy.Shell.Syntax.Grammar

namespace Remedy.Shell

open Unix Files

structure Flags where
  /-- Whether its status is tested, so that a failure ends nothing. -/
  tested : Bool := false
  exits : Bool := false

structure Interpreter where
  evaluate : Command → Flags → ShellM Unit
  tested : Bool := false

namespace Interpreter

def syntaxFailure (text : String) (e : SyntaxError) : ShellM α := do
  let s ← get
  set { s with line := e.line }
  if s.dialect == .plain then ShellM.fail ("Syntax error: " ++ e.message)
  else
    let head := s.name ++ ": -c: line " ++ toString e.line ++ ": "
    let lines := (Text.segments '\n' text.toList).map String.ofList
    let token := (e.message.splitOn " unexpected").headD ""
    if token == "end of file" then
      let _ ← ShellM.writeTo 2 (s.name ++ ": -c: line " ++ toString (e.line + 1) ++
        ": syntax error: unexpected end of file\n")
    else if e.message == "Unterminated quoted string" then
      let _ ← ShellM.writeTo 2 (head ++ "unexpected EOF while looking for matching `\"'\n")
    else
      let bare := String.ofList (token.toList.filter (· ≠ '"'))
      let _ ← ShellM.writeTo 2 (head ++ "syntax error near unexpected token `" ++ bare ++ "'\n" ++
        head ++ "`" ++ lines.getD (e.line - 1) "" ++ "'\n")
    ShellM.setStatus 2
    throw .failure

def reading (s : State) (text : String) : Reading :=
  let cs := text.toList
  { rest := cs, dialect := s.dialect, bound := cs.length + 1 }

/-- Evaluates lines of commands one after another, as they are read; gives the status of the last
one, which is zero without any. -/
def runLines (i : Interpreter) (text : String) (flags : Flags) : Nat → Nat → Reading → ShellM Nat
  | 0, status, _ => return status
  | n + 1, status, r => do
    if Grammar.isAtEnd r then return status
    let s ← get
    match Grammar.next? { r with aliases := s.aliases, nextDocument := s.nextDocument } with
    | .error e => syntaxFailure text e
    | .ok (c, after) =>
      modify fun s => { s with
        documents := after.documents ++ s.documents, nextDocument := after.nextDocument }
      if s.isOn 'v' then
        let taken := r.rest.take (r.rest.length - after.rest.length)
        let _ ← ShellM.writeTo 2 (String.ofList taken)
      let isLast := match after.pushed with
        | some .finish => true
        | _ => false
      i.evaluate c { flags with exits := flags.exits && isLast }
      let now := (← get).status
      let status := match c with
        | .nothing => status
        | _ => now
      runLines i text flags n status { after with documents := [] }

/-- Evaluates a text of commands; gives the status of the last one, which is zero without any. -/
def runText (i : Interpreter) (text : String) (flags : Flags) : ShellM Nat := do
  i.runLines text flags (text.length + 2) 0 (reading (← get) text)

def conclude (i : Interpreter) : ShellM Unit := do
  let s ← get
  match s.traps.lookup 0 with
  | none => return
  | some action =>
    set { s with traps := s.traps.filter (·.1 ≠ 0), loops := 0 }
    match ← ShellM.caught (i.runText action {}) with
    | .error .exit => return
    | _ => ShellM.setStatus s.status

def program (i : Interpreter) (step : ShellM Unit) (s : State) : Program :=
  let whole : ShellM Unit := do
    let _ ← ShellM.caught step
    i.conclude
  whole s fun (_, s) => .exit (s.status % 256)

def enterCopy (isBackground : Bool) : ShellM Unit := do
  let s ← get
  let trapped := s.traps.filter fun t => t.1 ≠ 0 && t.2 ≠ ""
  trapped.forM fun t => do
    let _ ← ShellM.sys (.dispose t.1 .default)
  set { s with
    traps := s.traps.filter fun t => t.2 == "" && t.1 ≠ 0
    jobs := []
    isCopy := true }
  if isBackground then
    let _ ← ShellM.sys (.dispose Signal.interrupt .ignore)
    let _ ← ShellM.sys (.dispose Signal.quit .ignore)

def forgetJob : ShellM Unit := modify fun s =>
  match (s.jobs.filter fun j => j.isDone && j.wasAwaited).getLast? with
  | some j => { s with jobs := s.jobs.filter (·.number ≠ j.number) }
  | none => s

def spawn (i : Interpreter) (isBackground : Bool) (step : ShellM Unit) : ShellM Nat := do
  forgetJob
  ShellM.fork fun s => i.program (do enterCopy isBackground; step) s

def noteEnd (pid : Nat) (exit : Exit) : ShellM Unit := modify fun s =>
  { s with jobs := s.jobs.map fun j =>
      if j.pids.contains pid then { j with ended := (pid, exit) :: j.ended } else j }

def tellSignal (exit : Exit) : ShellM Unit := do
  match exit with
  | .signal s =>
    unless s = Signal.interrupt ∨ s = Signal.brokenPipe do
      let _ ← ShellM.writeTo 2 (Signal.description s ++ "\n")
  | .code _ => return

def patience : Nat := 1000000

/-- Waits until all the processes have ended; gives the ends as they come. -/
def awaitAll (pids : List Nat) : Nat → List (Nat × Exit) → ShellM (List (Nat × Exit))
  | 0, ended => return ended
  | n + 1, ended => do
    if pids.all fun p => (ended.lookup p).isSome then return ended
    match ← ShellM.sys (.wait .anyChild .always) with
    | .ended pid exit =>
      if pids.contains pid then
        tellSignal exit
        awaitAll pids n ((pid, exit) :: ended)
      else
        noteEnd pid exit
        awaitAll pids n ended
    | _ => return ended

def awaitStatus (pids : List Nat) : ShellM Nat := do
  let ended ← awaitAll pids patience []
  let statuses := pids.map fun p => ((ended.lookup p).getD (.code 127)).status
  modify ({ · with pipeStatus := statuses })
  let s ← get
  if s.has "pipefail" then
    return (statuses.reverse.find? (· ≠ 0)).getD 0
  return statuses.getLast?.getD 0

def substitute (i : Interpreter) (c : Command) : ShellM String := do
  match c with
  | .nothing => return ""
  | c =>
    let (reading, writing) ← ShellM.sys .pipe
    let pid ← i.spawn false do
      let _ ← ShellM.sys (.close reading)
      Redirecting.moveTo writing 1
      i.evaluate c { exits := true }
    let _ ← ShellM.sys (.close writing)
    let output ← ShellM.act (Act.readAll reading)
    let _ ← ShellM.sys (.close reading)
    let status ← awaitStatus [pid]
    modify ({ · with status, substituted := status })
    return output.toOption.getD ""

def hasTraps : ShellM Bool := return (← get).traps.any fun t => t.2 ≠ ""

def runTraps (i : Interpreter) : ShellM Unit := do
  let s ← get
  if s.traps.any fun t => t.1 ≠ 0 && t.2 ≠ "" then
    let signals ← ShellM.sys .takeSignals
    let signals := (s.pendingSignals ++ signals).mergeSort fun a b => decide (a ≤ b)
    unless signals.isEmpty do
      set { s with pendingSignals := [] }
      signals.forM fun n => do
        let s ← get
        match s.traps.lookup n with
        | some action =>
          if action ≠ "" then
            let _ ← i.runText action {}
            ShellM.setStatus s.status
        | none => return

def notRun (e : Errno) : String :=
  match e with
  | .missing | .notDirectory => "not found"
  | e => e.message

def notRunStatus (e : Errno) : Nat :=
  match e with
  | .missing | .notDirectory | .tooManyLinks | .nameTooLong => 127
  | _ => 126

/-- Puts a program in the place of the shell; a text without an interpreter is run by a shell. -/
def execute (path : String) (arguments : List String) (environment : List (String × String)) :
    ShellM Errno := do
  match ← ShellM.sys (.exec path arguments environment) with
  | .notExecutable =>
    ShellM.sys (.exec "/bin/sh" ("/bin/sh" :: path :: arguments.drop 1) environment)
  | e => return e

def executeFirst (arguments : List String) (environment : List (String × String)) :
    List String → Errno → ShellM Errno
  | [], e => return e
  | path :: rest, e => do
    match ← execute path arguments environment with
    | .missing | .notDirectory => executeFirst arguments environment rest e
    | f => executeFirst arguments environment rest f

/-- Puts a program in the place of the shell, or says why not and ends. -/
def replace (name : String) (arguments : List String) (environment : List (String × String))
    (directories : List String) : ShellM α := do
  let e ←
    if name.toList.contains '/' then execute name arguments environment
    else
      let candidates := directories.map fun d => if d == "" then name else d ++ "/" ++ name
      executeFirst arguments environment candidates .missing
  let s ← get
  if s.dialect == .plain then ShellM.warn (name ++ ": " ++ notRun e)
  else
    ShellM.warn (name ++ ": " ++ (match e with
      | .missing => if name.toList.contains '/' then e.message else "command not found"
      | .denied =>
        if name.toList.contains '/' then e.message else "command not found"
      | e => e.message))
  ShellM.setStatus (notRunStatus e)
  throw .exit

def runProgram (i : Interpreter) (flags : Flags) (directories : List String)
    (arguments : List String) : ShellM Unit := do
  let name := arguments.headD ""
  let s ← get
  let isThere ←
    if name.toList.contains '/' then pure true
    else do
      let found := (← ShellM.look).program? directories name
      match found with
      | some p =>
        unless s.known.any (·.1 == name) do
          modify fun s => { s with known := s.known ++ [(name, p)] }
        pure true
      | none => pure false
  if !isThere then
    ShellM.warn (name ++ (if s.dialect == .plain then ": not found" else ": command not found"))
    ShellM.setStatus 127
  else if flags.exits && !(← hasTraps) then
    replace name arguments s.environment directories
  else
    let pid ← i.spawn false (replace name arguments s.environment directories)
    ShellM.setStatus (← awaitStatus [pid])

end Interpreter

end Remedy.Shell
