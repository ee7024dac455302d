import Remedy.Regex.Matching
import Remedy.Shell.Builtin.Names

namespace Remedy.Shell.Evaluation

open Unix Files

def runner (i : Interpreter) : Expansion.Runner := i.substitute

def checkFailure (flags : Flags) : ShellM Unit := do
  let s ← get
  if s.isOn 'e' && !flags.tested && s.status ≠ 0 then throw .exit

def turns (step : ShellM Bool) : Nat → ShellM Unit
  | 0 => pure ()
  | n + 1 => do
    if ← step then
      ShellM.sys .pause
      turns step n

/-- Does the body of a loop; tells whether the loop goes on. -/
def turn (body : ShellM Unit) : ShellM Bool := do
  match ← ShellM.caught body with
  | .ok _ => return true
  | .error (.leave 1 continues) => return continues
  | .error (.leave (n + 2) continues) => throw (.leave (n + 1) continues)
  | .error j => throw j

def insideLoop (step : ShellM Unit) : ShellM Unit := do
  modify fun s => { s with loops := s.loops + 1 }
  ShellM.ensuring step (modify fun s => { s with loops := s.loops - 1 })

def declaring (run : Expansion.Runner) (w : Word) : ShellM (List String) := do
  match Grammar.assignment? false w with
  | some (name, _, value) => return [name ++ "=" ++ (← Expansion.assigned run value)]
  | none => Expansion.fields run [w]

def expandWords (run : Expansion.Runner) : List Word → ShellM (List String)
  | [] => return []
  | w :: rest => do
    match ← Expansion.fields run [w] with
    | [] => expandWords run rest
    | name :: others =>
      let declares := (Builtin.find? (← get).dialect name).any (·.declares)
      if declares then
        let operands ← rest.mapM (declaring run)
        return name :: others ++ operands.flatten
      else if name == "command" && others.isEmpty then
        return name :: (← expandWords run rest)
      else return name :: others ++ (← Expansion.fields run rest)

def indexOf (run : Expansion.Runner) (name : String) (index : Word) : ShellM String := do
  let text ← Expansion.single run index
  if ((← get).binding? name).any (·.isKeyed) then return text
  else
    let n ← Expansion.arithmetic text
    let elements := (((← get).binding? name).bind (·.elements)).getD []
    let last : Int := ((elements.getLast?.bind fun e => e.1.toNat?).elim 0 (· + 1) : Nat)
    return toString (if n < 0 then n + last else n)

def scalar (run : Expansion.Runner) (name : String) (index : Word) (append : Bool) (value : Word) :
    ShellM (String × String) := do
  let target ← if index.isEmpty then pure name
    else do pure (name ++ "[" ++ (← indexOf run name index) ++ "]")
  let text ← Expansion.assigned run value
  let s ← get
  let isInteger := (s.binding? name).any (·.isInteger)
  if isInteger then
    let n ← Expansion.arithmetic text
    let old ← if append then Expansion.arithmetic (s.value target) else pure 0
    return (target, toString (n + old))
  else return (target, if append then s.value target ++ text else text)

def elements (run : Expansion.Runner) (name : String) (isKeyed : Bool) :
    List Assignment → Nat → List (String × String) → ShellM (List (String × String))
  | [], _, found => return found
  | .scalar _ [] _ w :: rest, next, found => do
    let texts ← Expansion.fields run [w]
    let added := texts.zipIdx.map fun (t, k) => (toString (next + k), t)
    elements run name isKeyed rest (next + texts.length)
      (added.foldl (fun es (i, t) => State.insertElement isKeyed i t es) found)
  | .scalar _ index append w :: rest, next, found => do
    let i ← indexOf run name index
    let text ← Expansion.assigned run w
    let text := if append then (found.lookup i).getD "" ++ text else text
    elements run name isKeyed rest ((i.toNat?.getD next) + 1)
      (State.insertElement isKeyed i text found)
  | .array .. :: rest, next, found => elements run name isKeyed rest next found

def assignArray (run : Expansion.Runner) (name : String) (append : Bool) (es : List Assignment) :
    ShellM Unit := do
  let v := ((← get).binding? name).getD {}
  let old := if append then
      v.elements.getD ((v.value.map fun t => [("0", t)]).getD []) else []
  let next := (old.getLast?.bind fun e => e.1.toNat?).elim 0 (· + 1)
  let all ← elements run name v.isKeyed es next old
  Scope.mark name ({ · with value := none, elements := some all })

def assignment (run : Expansion.Runner) (give : String → String → ShellM Unit) :
    Assignment → ShellM (Option (String × String))
  | .scalar name index append value => do
    let (target, text) ← scalar run name index append value
    give target text
    return some (target, text)
  | .array name append es => do
    assignArray run name append es
    return none

def tracedWord (w : String) : String :=
  let isSafe (c : Char) : Bool := c.isAlphanum || "_-./=:,+%@^".toList.contains c || c.toNat ≥ 128
  if w == "" || !w.toList.all isSafe then Expansion.singleQuoted w else w

def trace (i : Interpreter) (assigned : List (String × String)) (words : List String) :
    ShellM Unit := do
  let s ← get
  if s.isOn 'x' then
    modify (·.setOption 'x' false)
    let head ← match Grammar.text? (Interpreter.reading s (s.value "PS4")) with
      | some w => Expansion.document (runner i) w
      | none => pure (s.value "PS4")
    modify (·.setOption 'x' true)
    let shown (w : String) := if s.dialect == .plain then w else tracedWord w
    let assignments := assigned.map fun (name, text) => name ++ "=" ++ shown text
    let _ ← ShellM.writeTo s.traceTo
      (head ++ " ".intercalate (assignments ++ words.map shown) ++ "\n")

/-- Runs a builtin. Errors of special ones break off, those of others leave a status. -/
def runBuiltin (i : Interpreter) (flags : Flags) (b : Builtin) (endsShell : Bool) (name : String)
    (operands : List String) : ShellM Unit := do
  let before := (← get).command
  modify ({ · with command := some name })
  let result ← ShellM.ensuring (ShellM.caught (b.run { i with tested := flags.tested } operands))
    (modify ({ · with command := before }))
  match result with
  | .ok status => ShellM.setStatus status
  | .error .failure => if endsShell then throw .failure
  | .error j => throw j

def call (i : Interpreter) (flags : Flags) (body : Command) (operands : List String) :
    ShellM Unit := do
  let before ← get
  set { before with
    positional := operands, cursor := {}, loops := 0, calls := before.calls + 1 }
  ShellM.sys .pause
  let result ← ShellM.ensuring (ShellM.caught (i.evaluate body { tested := flags.tested }))
    (modify fun s => { s with
      positional := before.positional, cursor := before.cursor
      loops := before.loops, calls := before.calls })
  match result with
  | .ok _ | .error .return => return
  | .error j => throw j

/-- The operands behind `command` and its options: how the name is looked for, and what is run;
`none` if nothing is run. -/
def behindCommand : List String → Option (Bool × List String)
  | [] => none
  | w :: rest =>
    match w.toList with
    | ['-', '-'] => if rest.isEmpty then none else some (false, rest)
    | '-' :: c :: cs =>
      if (c :: cs).all (· == 'p') then (behindCommand rest).map fun found => (true, found.2)
      else none
    | _ => some (false, w :: rest)

inductive Found where
  | builtin (b : Builtin) (endsShell : Bool)
  | function (body : Command)
  | program

/-- Looks for a command; `skips` passes functions over. -/
def find (name : String) (skips : Bool) : ShellM Found := do
  let s ← get
  if name.toList.contains '/' then return .program
  else
    let builtin := Builtin.find? s.dialect name
    match builtin, (if skips then none else s.functions.lookup name) with
    | some b, none => return .builtin b (b.isSpecial && !skips && s.dialect == .plain)
    | some b, some (_, body) =>
      if b.isSpecial && s.dialect == .plain then return .builtin b true else return .function body
    | none, some (_, body) => return .function body
    | none, none => return .program

/-- Takes `command` and `builtin` off the front of words; tells whether there was one. -/
def stripped (d : Dialect) : Nat → Bool → Bool → List String → Bool × Bool × List String
  | 0, skips, usesDefault, words => (skips, usesDefault, words)
  | n + 1, skips, usesDefault, words =>
    match words with
    | "command" :: rest =>
      match behindCommand rest with
      | some (byDefault, inner) => stripped d n true (usesDefault || byDefault) inner
      | none => (skips, usesDefault, words)
    | "builtin" :: rest =>
      if d == .extended && !rest.isEmpty then stripped d n true usesDefault rest
      else (skips, usesDefault, words)
    | words => (skips, usesDefault, words)

def perform (i : Interpreter) (flags : Flags) (assignments : List Assignment)
    (words : List String) : ShellM Unit := do
  let run := runner i
  let s ← get
  let isShadowed := s.functions.any (·.1 == "command")
  let (skips, usesDefault, inner) := if isShadowed then (false, false, words)
    else stripped s.dialect (words.length + 1) false false words
  match inner with
  | [] =>
    let assigned ← assignments.mapM (assignment run ShellM.assign)
    trace i (assigned.filterMap id) []
    ShellM.setStatus (← get).substituted
  | name :: operands =>
    let found ← find name skips
    match found with
    | .builtin b endsShell =>
      if s.dialect == .extended && b.declares then
        let scalars ← assignments.mapM fun a => do
          match a with
          | .scalar name index append value =>
            let (target, text) ← scalar run name index false value
            return [target ++ (if append then "+=" else "=") ++ text]
          | .array name .. => return [name]
        trace i [] (words ++ scalars.flatten)
        runBuiltin i flags b false name (operands ++ scalars.flatten)
        assignments.forM fun a => do
          match a with
          | .array name append es => assignArray run name append es
          | .scalar .. => pure ()
      else if endsShell || (b.isSpecial && !skips && assignments.isEmpty) then
        let isExec := name == "exec" && !operands.isEmpty
        let give (name text : String) : ShellM Unit := do
          ShellM.assign name text
          if isExec then Scope.mark name ({ · with isExported := true })
        let assigned ← assignments.mapM (assignment run give)
        trace i (assigned.filterMap id) words
        runBuiltin i flags b endsShell name operands
      else inScope assignments words (runBuiltin i flags b false name operands)
    | .function body =>
      Scope.enter
      ShellM.ensuring (do
        let assigned ← assignments.mapM (assignment run Scope.assignExported)
        trace i (assigned.filterMap id) words
        call i flags body operands) Scope.leave
    | .program =>
      inScope assignments words do
        let s ← get
        let directories := if usesDefault then
            (Text.segments ':' State.defaultPath.toList).map String.ofList
          else s.searchPath
        i.runProgram flags directories inner
where
  inScope (assignments : List Assignment) (words : List String) (step : ShellM Unit) :
      ShellM Unit := do
    if assignments.isEmpty then
      trace i [] words
      step
    else
      Scope.enter
      ShellM.ensuring (do
        let assigned ← assignments.mapM (assignment (runner i) Scope.assignExported)
        trace i (assigned.filterMap id) words
        step) Scope.leave

def forget (hidden : Hidden) : ShellM Unit :=
  hidden.forM fun (_, copy) => do
    match copy with
    | some copy =>
      let _ ← ShellM.sys (.close copy)
    | none => pure ()

def keepsRedirections (d : Dialect) (words : List String) : Bool :=
  (stripped d (words.length + 1) false false words).2.2.head? == some "exec"

def simple (i : Interpreter) (line : Nat) (assignments : List Assignment) (words : List Word)
    (redirections : List Redirection) (flags : Flags) : ShellM Unit := do
  let run := runner i
  modify ({ · with line, substituted := 0 })
  let words ← expandWords run words
  let d := (← get).dialect
  match redirections with
  | [] => perform i flags assignments words
  | redirections =>
    match ← Redirecting.start run true redirections with
    | none =>
      ShellM.setStatus (if d == .plain then 2 else 1)
      let name := words.head?
      if d == .plain && (name.bind (Builtin.find? d)).any (·.isSpecial) then throw .failure
    | some hidden =>
      let before := (← get).traceTo
      let traceTo := match hidden.lookup 2 with
        | some (some copy) => copy
        | _ => before
      modify ({ · with traceTo })
      let isKept := keepsRedirections d words
      ShellM.ensuring (perform i flags assignments words)
        (do
          modify ({ · with traceTo := before })
          if isKept then forget hidden else Redirecting.restore hidden)

def startPipeline (i : Interpreter) (flags : Flags) (isBackground : Bool) (first : Bool)
    (input : Option Nat) : List Command → ShellM (List Nat)
  | [] => return []
  | c :: rest => do
    let ends ← if rest.isEmpty then pure none else do pure (some (← ShellM.sys .pipe))
    let pid ← i.spawn isBackground do
      if isBackground && first then
        let _ ← ShellM.sys (.close 0)
        let _ ← ShellM.sys (.open "/dev/null" .input)
      match ends with
      | some (reading, _) =>
        let _ ← ShellM.sys (.close reading)
      | none => pure ()
      match input with
      | some fd => Redirecting.moveTo fd 0
      | none => pure ()
      match ends with
      | some (_, writing) => Redirecting.moveTo writing 1
      | none => pure ()
      i.evaluate c { tested := flags.tested && !isBackground, exits := true }
    match input with
    | some fd =>
      let _ ← ShellM.sys (.close fd)
    | none => pure ()
    match ends with
    | some (_, writing) =>
      let _ ← ShellM.sys (.close writing)
    | none => pure ()
    let others ← startPipeline i flags isBackground false (ends.map (·.1)) rest
    return pid :: others

def background (i : Interpreter) (c : Command) : ShellM Unit := do
  let commands := match c with
    | .pipeline cs => cs
    | c => [c]
  let pids ← startPipeline i {} true true none commands
  modify fun s =>
    let number := ((List.range (s.jobs.length + 1)).map (· + 1)).find? fun n =>
      !s.jobs.any (·.number = n)
    { s with
      jobs := { number := number.getD 1, pids } :: s.jobs
      background := pids.getLast?
      status := 0 }

def subshellBody (i : Interpreter) (body : Command) (redirections : List Redirection)
    (flags : Flags) : ShellM Unit := do
  match ← Redirecting.start (runner i) false redirections with
  | none => ShellM.setStatus (if ← ShellM.isExtended then 1 else 2)
  | some _ => i.evaluate body { flags with exits := true }

/-- Whether an operator and operands of a test between double brackets hold. -/
def holds (i : Interpreter) (operator : String) (operands : List Word) : ShellM Bool := do
  let run := runner i
  let single := Expansion.single run
  match operator, operands with
  | "-n", [w] => return (← single w) != ""
  | "-z", [w] => return (← single w) == ""
  | "-v", [w] => do
    let name ← single w
    return ((← get).value? name).isSome
  | "-o", [w] => do
    let name ← single w
    let s ← get
    return (Options.extended.lookup name).any s.isOn || s.has name
  | o, [w] => do
    let text ← single w
    let view ← ShellM.look
    match Test.evaluate view [o, text] with
    | .ok b => return b
    | .error message =>
      ShellM.warn message
      return false
  | "=~", [a, b] => do
    let text ← single a
    let p ← Expansion.pattern run b
    -- what is quoted stands for itself
    let source := String.join (p.map fun (c, quoted) =>
      if quoted && ".[]()*+?\x7b\x7d|^$\\".toList.contains c then "\\" ++ String.singleton c
      else String.singleton c)
    match Regex.read { isExtended := true } source with
    | .error _ =>
      ShellM.setStatus 2
      return false
    | .ok r =>
      let chars := text.toList.toArray
      match Regex.search? (Regex.compile r) {} chars 0 with
      | none => return false
      | some found =>
        let texts := (List.range (r.groups + 1)).map fun n =>
          match found.group? n with
          | some (a, b) => String.ofList (chars.extract a b).toList
          | none => ""
        let es := texts.zipIdx.map fun (t, n) => (toString n, t)
        Scope.mark "BASH_REMATCH" ({ · with value := none, elements := some es })
        return true
  | o, [a, b] => do
    let left ← single a
    match o with
    | "=" | "==" | "!=" =>
      let p ← Expansion.pattern run b
      return Pattern.accepts p left != (o == "!=")
    | _ =>
      let right ← single b
      match o with
      | "<" => return decide (left < right)
      | ">" => return decide (right < left)
      | "-eq" => return (← Expansion.arithmetic left) == (← Expansion.arithmetic right)
      | "-ne" => return (← Expansion.arithmetic left) != (← Expansion.arithmetic right)
      | "-lt" => return decide ((← Expansion.arithmetic left) < (← Expansion.arithmetic right))
      | "-le" => return decide ((← Expansion.arithmetic left) ≤ (← Expansion.arithmetic right))
      | "-gt" => return decide ((← Expansion.arithmetic right) < (← Expansion.arithmetic left))
      | "-ge" => return decide ((← Expansion.arithmetic right) ≤ (← Expansion.arithmetic left))
      | "-nt" => do
        let view ← ShellM.look
        return Test.isNewer view left right
      | "-ot" => do
        let view ← ShellM.look
        return Test.isNewer view right left
      | _ => do
        let view ← ShellM.look
        return Test.isSame view left right
  | _, _ => return false

def condition (i : Interpreter) : Command → ShellM Bool
  | .and a b => do
    if ← condition i a then condition i b else return false
  | .or a b => do
    if ← condition i a then return true else condition i b
  | .not c => return !(← condition i c)
  | .test o operands => holds i o operands
  | _ => return false

def value (i : Interpreter) (expression : Word) : ShellM Int := do
  let source ← Expansion.document (runner i) expression
  if source.toList.all Arithmetic.isBlank then return 1 else Expansion.arithmetic source

def choose (i : Interpreter) (subject : String) (flags : Flags) : Bool → List Case → ShellM Unit
  | _, [] => ShellM.setStatus 0
  | isChosen, .mk patterns body fallsThrough :: rest => do
    let run := runner i
    let rec any : List Word → ShellM Bool
      | [] => return false
      | w :: ws => do
        if Pattern.accepts (← Expansion.pattern run w) subject then return true else any ws
    if ← (if isChosen then pure true else any patterns) then
      if fallsThrough then
        i.evaluate body { tested := flags.tested }
        choose i subject flags true rest
      else
        match body with
        | .nothing => ShellM.setStatus 0
        | body => i.evaluate body flags
    else choose i subject flags false rest

def after (i : Interpreter) (flags : Flags) (checks : Bool) : ShellM Unit := do
  i.runTraps
  if checks then checkFailure flags

/-- Evaluates a command; `n` bounds how deep commands are evaluated in one another. -/
def evaluate : Nat → Command → Flags → ShellM Unit
  | 0, _, _ => ShellM.fail "Maximum function recursion depth reached"
  | n + 1, c, flags => do
    let i : Interpreter := { evaluate := evaluate n }
    let inner : Flags := { tested := flags.tested }
    let test : Flags := { tested := true }
    if (← get).isOn 'n' then return
    match c with
    | .nothing => return
    | .simple line assignments words redirections =>
      simple i line assignments words redirections flags
      after i flags true
    | .pipeline cs =>
      let pids ← startPipeline i flags false false none cs
      ShellM.setStatus (← Interpreter.awaitStatus pids)
      after i flags true
    | .not c =>
      i.evaluate c test
      ShellM.setStatus (if (← get).status = 0 then 1 else 0)
    | .and a b =>
      i.evaluate a test
      if (← get).status = 0 then i.evaluate b flags
    | .or a b =>
      i.evaluate a test
      if (← get).status ≠ 0 then i.evaluate b flags
    | .sequence a b =>
      i.evaluate a inner
      i.evaluate b flags
    | .background c => background i c
    | .subshell line body redirections =>
      modify ({ · with line })
      if flags.exits && !(← Interpreter.hasTraps) then
        subshellBody i body redirections flags
      else
        let pid ← i.spawn false (subshellBody i body redirections flags)
        ShellM.setStatus (← Interpreter.awaitStatus [pid])
      after i flags true
    | .redirected line body redirections =>
      modify ({ · with line })
      match ← Redirecting.start (runner i) true redirections with
      | none => ShellM.setStatus (if ← ShellM.isExtended then 1 else 2)
      | some hidden => ShellM.ensuring (i.evaluate body inner) (Redirecting.restore hidden)
      after i flags true
    | .group body => i.evaluate body flags
    | .branch condition yes no =>
      i.evaluate condition test
      if (← get).status = 0 then i.evaluate yes flags
      else
        ShellM.setStatus 0
        i.evaluate no flags
    | .loop isUntil condition body =>
      insideLoop do
        let goes : ShellM Bool := do
          i.evaluate condition test
          let status := (← get).status
          return (status = 0) != isUntil
        ShellM.setStatus (← loopTurns goes (i.evaluate body inner) Act.limit 0)
    | .each line name hasWords words body =>
      modify ({ · with line })
      let values ← if hasWords then Expansion.fields (runner i) words
        else do pure (← get).positional
      let before := (← get).status
      ShellM.setStatus (if values.isEmpty then 0 else before)
      insideLoop (eachTurn i name body inner values)
    | .choice line subject cases =>
      modify ({ · with line })
      choose i (← Expansion.single (runner i) subject) flags false cases
    | .function line name body =>
      modify fun s => { s with
        functions := (name, line, body) :: s.functions.filter (·.1 ≠ name), status := 0 }
    | .arithmetic line e =>
      modify ({ · with line })
      ShellM.setStatus (if (← value i e) = 0 then 1 else 0)
      after i flags true
    | .count line start condition next body =>
      modify ({ · with line })
      let step (w : Word) : ShellM Int := if w.isEmpty then pure 1 else value i w
      let _ ← step start
      ShellM.setStatus 0
      insideLoop (turns (do
        if (← step condition) = 0 then return false
        else
          let goes ← turn (i.evaluate body inner)
          if goes then
            let _ ← step next
          return goes) Act.limit)
    | .condition line c =>
      modify ({ · with line })
      ShellM.setStatus 0
      let b ← condition i c
      if (← get).status = 0 then ShellM.setStatus (if b then 0 else 1)
      after i flags true
    | .test .. => return
where
  loopTurns (goes : ShellM Bool) (body : ShellM Unit) : Nat → Nat → ShellM Nat
    | 0, status => return status
    | n + 1, status => do
      match ← ShellM.caught goes with
      | .ok false | .error (.leave 1 false) => return status
      | .error (.leave 1 true) =>
        ShellM.sys .pause
        loopTurns goes body n status
      | .error (.leave (k + 2) continues) => throw (.leave (k + 1) continues)
      | .error j => throw j
      | .ok true =>
        let goesOn ← turn body
        let status := (← get).status
        if goesOn then
          ShellM.sys .pause
          loopTurns goes body n status
        else return status
  eachTurn (i : Interpreter) (name : String) (body : Command) (inner : Flags) :
      List String → ShellM Unit
    | [] => return
    | v :: rest => do
      ShellM.assign name v
      if ← turn (i.evaluate body inner) then
        ShellM.sys .pause
        eachTurn i name body inner rest

end Remedy.Shell.Evaluation
