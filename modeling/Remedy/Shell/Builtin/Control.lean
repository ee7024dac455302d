import Remedy.Shell.Builtin.Basic

namespace Remedy.Shell.Builtin

open Unix Files

def leaveLoops (continues : Bool) (_ : Interpreter) (words : List String) : ShellM Nat := do
  let n ← match words with
    | [] => pure 1
    | w :: _ => do
      let n ← number w
      if n = 0 then
        if ← ShellM.isExtended then ShellM.fail (w ++ ": loop count out of range")
        else ShellM.fail ("Illegal number: " ++ w)
      else pure n
  let n := min n (← get).loops
  if n = 0 then return 0
  else
    ShellM.setStatus 0
    throw (.leave n continues)

def returnStatus (_ : Interpreter) (words : List String) : ShellM Nat := do
  let s ← get
  if s.dialect == .extended && s.calls = 0 && s.files = 0 then
    ShellM.warn "can only `return' from a function or sourced script"
    return 2
  else
    match words with
    | [] => pure ()
    | w :: _ =>
      if s.dialect == .extended then
        match Arithmetic.integer? w.toList with
        | some (n, []) => ShellM.setStatus (n % 256).toNat
        | _ =>
          ShellM.warn (w ++ ": numeric argument required")
          ShellM.setStatus 2
      else ShellM.setStatus (← number w)
    throw .return

def exitStatus (_ : Interpreter) (words : List String) : ShellM Nat := do
  match words with
  | [] => pure ()
  | w :: _ =>
    if ← ShellM.isExtended then
      match Arithmetic.integer? w.toList with
      | some (n, []) => ShellM.setStatus (n % 256).toNat
      | _ =>
        ShellM.warn (w ++ ": numeric argument required")
        ShellM.setStatus 2
    else ShellM.setStatus (← number w)
  throw .exit

def evaluateWords (i : Interpreter) (words : List String) : ShellM Nat := do
  let words := match words with
    | "--" :: words => words
    | words => words
  if words.isEmpty then return 0
  else i.runText (" ".intercalate words) { tested := i.tested }

def sourcePath (name : String) : ShellM String := do
  if name.toList.contains '/' then return name
  else
    let s ← get
    let view ← ShellM.look
    match view.program? s.searchPath name with
    | some path => return path
    | none =>
      if s.dialect == .plain then ShellM.fail (name ++ ": not found")
      else return name

def runFile (i : Interpreter) (words : List String) : ShellM Nat := do
  let g ← given "" "" words
  match g.operands with
  | [] =>
    if ← ShellM.isExtended then
      ShellM.warn "filename argument required"
      return 2
    else return 0
  | name :: operands =>
    let path ← sourcePath name
    match ← ShellM.sys (.open path .input) with
    | .error e =>
      if ← ShellM.isExtended then
        let s ← get
        ShellM.act (do
          let _ ← Act.writeTo 2 (s.name ++ ": line " ++ toString s.line ++ ": " ++ path ++ ": " ++
            e.message ++ "\n"))
        return 1
      else ShellM.fail ("cannot open " ++ path ++ ": " ++ Redirecting.reason e false)
    | .ok fd =>
      let text ← ShellM.act (Act.readAll fd)
      let _ ← ShellM.sys (.close fd)
      let before ← get
      let extended := before.dialect == .extended
      set { before with
        command := if extended then none else some path
        files := before.files + 1
        positional := if extended && !operands.isEmpty then operands else before.positional }
      let back : ShellM Unit := modify fun s =>
        { s with
          files := before.files
          positional := if extended && !operands.isEmpty then before.positional else s.positional }
      let result ← ShellM.ensuring
        (ShellM.caught (i.runText (text.toOption.getD "") {})) back
      match result with
      | .ok status => return status
      | .error .return => return (← get).status
      | .error j => throw j

def executeProgram (_ : Interpreter) (words : List String) : ShellM Nat := do
  let g ← given "" (if ← ShellM.isExtended then "a" else "") words
  match g.operands with
  | [] => return 0
  | name :: rest =>
    let s ← get
    Interpreter.replace name ((g.argument? 'a').getD name :: rest) s.environment s.searchPath

def signal? (dialect : Dialect) (least : Nat) (w : String) : Option Signal :=
  let cs := w.toList
  if !cs.isEmpty && cs.all Char.isDigit then
    let n := Arithmetic.valueIn 10 cs
    if n < Signal.count then some n else none
  else
    let name := String.ofList (cs.map Char.toUpper)
    let name := if dialect == .extended && name.startsWith "SIG" then
      String.ofList (name.toList.drop 3) else name
    match Signal.ofName? name with
    | some n => if n < least then none else some n
    | none => none

def shownTraps (s : State) : String :=
  let traps := s.traps.mergeSort fun a b => decide (a.1 ≤ b.1)
  String.join (traps.map fun (n, action) =>
    let name := if s.dialect == .extended && n ≠ 0 then "SIG" ++ Signal.name n else Signal.name n
    "trap -- " ++ (if s.dialect == .plain then quoted action else Expansion.singleQuoted action) ++
      " " ++ name ++ "\n")

def setTrap (n : Signal) (action : Option String) : ShellM Unit := do
  modify fun s =>
    let others := s.traps.filter (·.1 ≠ n)
    { s with traps := action.elim others fun a => (n, a) :: others }
  if n ≠ 0 then
    let d : Disposition := match action with
      | none => .default
      | some "" => .ignore
      | some _ => .note
    let _ ← ShellM.sys (.dispose n d)

def setTraps (action : Option String) : List String → ShellM Nat
  | [] => return 0
  | w :: rest => do
    let s ← get
    match signal? s.dialect 0 w with
    | some n =>
      setTrap n action
      setTraps action rest
    | none =>
      if s.dialect == .plain then
        let _ ← ShellM.writeTo 2 ("trap: " ++ w ++ ": bad trap\n")
        return 1
      else
        ShellM.warn (w ++ ": invalid signal specification")
        let _ ← setTraps action rest
        return 1

def trap (_ : Interpreter) (words : List String) : ShellM Nat := do
  let extended ← ShellM.isExtended
  let g ← given (if extended then "lp" else "") "" words
  match g.operands with
  | [] => print (shownTraps (← get))
  | [w] => if extended && w == "-" then return 0 else setTraps none [w]
  | action :: names =>
    let isNumber := extended && action.toList.all Char.isDigit && action != ""
    if isNumber then setTraps none (action :: names)
    else setTraps (if action == "-" then none else some action) names

def times (_ : Interpreter) (_ : List String) : ShellM Nat :=
  let line := "0m0.000000s 0m0.000000s\n"
  print (line ++ line)

def control : List (String × Builtin) := [
  ("break", { isSpecial := true, run := leaveLoops false }),
  ("continue", { isSpecial := true, run := leaveLoops true }),
  ("return", { isSpecial := true, run := returnStatus }),
  ("exit", { isSpecial := true, run := exitStatus }),
  ("eval", { isSpecial := true, run := evaluateWords }),
  (".", { isSpecial := true, run := runFile }),
  ("exec", { isSpecial := true, run := executeProgram }),
  ("trap", { isSpecial := true, run := trap }),
  ("times", { isSpecial := true, run := times })]

end Remedy.Shell.Builtin
