import Remedy.Shell.Builtin.Control

namespace Remedy.Shell.Builtin

open Unix Files

def reap : Nat → ShellM Unit
  | 0 => pure ()
  | n + 1 => do
    match ← ShellM.sys (.wait .anyChild .none) with
    | .ended pid exit =>
      Interpreter.noteEnd pid exit
      reap n
    | _ => pure ()

def job (w : String) : ShellM Job := do
  let jobs := (← get).jobs
  let missing : ShellM Job := ShellM.fail ("No such job: " ++ w)
  match w.toList with
  | [] | ['%'] | ['%', '%'] | ['%', '+'] =>
    match jobs with
    | j :: _ => return j
    | [] => ShellM.fail "No current job"
  | ['%', '-'] =>
    match jobs with
    | _ :: j :: _ => return j
    | _ => ShellM.fail "No previous job"
  | '%' :: cs =>
    if cs.all Char.isDigit then
      match jobs.find? (·.number = Arithmetic.valueIn 10 cs) with
      | some j => return j
      | none => missing
    else missing
  | _ => missing

/-- Waits until a job is done; `none` where a signal comes in between. -/
def awaitJob (number : Nat) : Nat → ShellM (Option Exit)
  | 0 => return some (.code 0)
  | n + 1 => do
    match (← get).jobs.find? (·.number = number) with
    | none => return some (.code 127)
    | some j =>
      if j.isDone then return some j.exit
      else
        match ← ShellM.sys (.wait .anyChild .untilSignal) with
        | .ended pid exit =>
          Interpreter.noteEnd pid exit
          awaitJob number n
        | .interrupted => return none
        | _ => return some (.code 127)

def interruptedStatus : ShellM Nat := do
  let signals ← ShellM.sys .takeSignals
  signals.forM fun n => do
    let s ← get
    match s.traps.lookup n with
    | some _ => modify fun s => { s with pendingSignals := s.pendingSignals ++ [n] }
    | none => pure ()
  return 128 + signals.headD 0

def awaitAllJobs : Nat → ShellM Nat
  | 0 => return 0
  | n + 1 => do
    match (← get).jobs.find? (!·.isDone) with
    | none => return 0
    | some j =>
      match ← awaitJob j.number Interpreter.patience with
      | some _ => awaitAllJobs n
      | none => interruptedStatus

def awaitOperands : Nat → List String → ShellM Nat
  | status, [] => return status
  | _, w :: rest => do
    let number ←
      if w.startsWith "%" then do pure (some (← job w).number)
      else do
        let pid ← number w
        pure (((← get).jobs.find? fun j => j.pids.getLast? == some pid).map (·.number))
    match number with
    | none =>
      if ← ShellM.isExtended then
        ShellM.warn ("pid " ++ w ++ " is not a child of this shell")
      awaitOperands 127 rest
    | some number =>
      match ← awaitJob number Interpreter.patience with
      | none => interruptedStatus
      | some exit =>
        modify fun s => { s with jobs := s.jobs.map fun j =>
          if j.number = number then { j with wasAwaited := true } else j }
        awaitOperands exit.status rest

def wait (_ : Interpreter) (words : List String) : ShellM Nat := do
  let g ← given (if ← ShellM.isExtended then "nf" else "") "" words
  if g.operands.isEmpty then
    let status ← awaitAllJobs 100000
    modify fun s => { s with jobs := s.jobs.map ({ · with wasAwaited := true }) }
    return status
  else awaitOperands 127 g.operands

def standing (j : Job) : String :=
  if !j.isDone then "Running"
  else
    match j.exit with
    | .code 0 => "Done"
    | .code n => "Done(" ++ toString n ++ ")"
    | .signal s => Signal.description s

def mark (jobs : List Job) (j : Job) : String :=
  match jobs with
  | a :: rest =>
    if a.number = j.number then "+"
    else if rest.head?.any (·.number = j.number) then "-" else " "
  | [] => " "

def standingWidth : Nat := 33

def shownJob (jobs : List Job) (hasPids : Bool) (j : Job) : String :=
  let head := "[" ++ toString j.number ++ "] " ++ mark jobs j ++ " "
  let fill (s : String) := s ++ " " ++ "".pushn ' ' (standingWidth - s.length - 1)
  match j.pids with
  | [] => ""
  | first :: others =>
    if hasPids then
      fill (head ++ toString first ++ " " ++ standing j) ++
        String.join (others.map fun p =>
          " |\n" ++ fill ("".pushn ' ' head.length ++ toString p ++ " ")) ++ "\n"
    else fill (head ++ standing j) ++ String.join (others.map fun _ => " | ") ++ "\n"

def jobs (_ : Interpreter) (words : List String) : ShellM Nat := do
  let g ← given (if ← ShellM.isExtended then "lprs" else "lp") "" words
  reap 100000
  let all := (← get).jobs
  let shown ← if g.operands.isEmpty then pure all else g.operands.mapM job
  let status ← print (String.join (shown.map fun j =>
    if (g.options.getLast?.any (·.1 == 'p')) then toString (j.pids.headD 0) ++ "\n"
    else shownJob all (g.has 'l') j))
  unless g.has 'p' do
    modify fun s => { s with jobs := s.jobs.filter fun j =>
      !(j.isDone && shown.any (·.number = j.number)) }
  return status

/-- Moves a job, which cannot be done without a terminal. -/
def moveJob (_ : Interpreter) (words : List String) : ShellM Nat := do
  let g ← given "" "" words
  if ← ShellM.isExtended then
    ShellM.warn "no job control"
    return 1
  else
    let _ ← job (g.operands.headD "")
    ShellM.fail "job (null) not created under job control"

def killUsage : String :=
  "Usage: kill [-s sigspec | -signum | -sigspec] [pid | job]... or\nkill -l [exitstatus]"

def listSignals (operands : List String) : ShellM Nat := do
  let s ← get
  match operands with
  | [] =>
    print ("0\n" ++ String.join ((List.range (Signal.count - 1)).map fun n =>
      Signal.name (n + 1) ++ "\n"))
  | w :: _ =>
    match (if w.toList.all Char.isDigit then none else signal? s.dialect 0 w) with
    | some n =>
      if s.dialect == .extended then print (toString n ++ "\n")
      else ShellM.fail ("Illegal number: " ++ w)
    | none =>
      let n ← number w
      let n := if n > 128 then n - 128 else n
      if 0 < n ∧ n < Signal.count then print (Signal.name n ++ "\n")
      else ShellM.fail ("invalid signal number or exit status: " ++ w)

def sendTo (signal : Signal) : Nat → List String → ShellM Nat
  | status, [] => return status
  | status, w :: rest => do
    let extended ← ShellM.isExtended
    let target : Option Int ←
      if w.startsWith "%" then do
        let first : Int := ((← job w).pids.headD 0 : Nat)
        pure (some (if extended then first else -first))
      else
        let (negative, digits) := match w.toList with
          | '-' :: cs => (true, cs)
          | cs => (false, cs)
        if extended && (digits.isEmpty || !digits.all Char.isDigit) then
          ShellM.warn (w ++ ": arguments must be process or job IDs")
          pure none
        else do
          let n : Int := (← number (String.ofList digits) : Nat)
          pure (some (if negative then -n else n))
    match target with
    | none => sendTo signal 1 rest
    | some target =>
      match ← ShellM.sys (.kill target signal) with
      | .ok _ => sendTo signal status rest
      | .error e =>
        ShellM.warn (if extended then "(" ++ toString target ++ ") - " ++ e.message
          else e.message ++ "\n")
        sendTo signal 1 rest

def kill (_ : Interpreter) (words : List String) : ShellM Nat := do
  let s ← get
  let usage : ShellM Nat := do
    if s.dialect == .plain then ShellM.fail killUsage
    else
      let _ ← ShellM.writeTo 2 ("kill: usage: kill [-s sigspec | -n signum | -sigspec] pid | " ++
        "jobspec ... or kill -l [sigspec]\n")
      return 2
  match words with
  | [] => usage
  | w :: rest =>
    let direct := match w.toList with
      | '-' :: cs => signal? s.dialect 1 (String.ofList cs)
      | _ => none
    match direct with
    | some n => if rest.isEmpty then usage else sendTo n 0 rest
    | none =>
      if s.dialect == .extended && w.startsWith "-" && w != "--" && w != "-l" && w != "-s"
          && w != "-n" && w != "-L" then
        ShellM.warn (String.ofList (w.toList.drop 1) ++ ": invalid signal specification")
        return 1
      else
        let g ← given "l" (if s.dialect == .extended then "sn" else "s") words
        if g.has 'l' then listSignals g.operands
        else
          match (g.argument? 's').orElse fun _ => g.argument? 'n' with
          | some name =>
            match signal? s.dialect 1 name with
            | none =>
              if s.dialect == .plain then
                ShellM.fail ("invalid signal number or name: " ++ name)
              else
                ShellM.warn (name ++ ": invalid signal specification")
                return 1
            | some n => if g.operands.isEmpty then usage else sendTo n 0 g.operands
          | none =>
            if g.operands.isEmpty then usage else sendTo Signal.terminate 0 g.operands

def jobBuiltins : List (String × Builtin) := [
  ("wait", { run := wait }),
  ("jobs", { run := jobs }),
  ("fg", { run := moveJob }),
  ("bg", { run := moveJob }),
  ("kill", { run := kill })]

end Remedy.Shell.Builtin
