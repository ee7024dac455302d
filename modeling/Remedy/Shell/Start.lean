import Remedy.Shell.Evaluation

namespace Remedy.Shell

open Unix Files

inductive Source where
  | text (s : String)
  | file (path : String)
  | input
deriving DecidableEq, Repr

structure Invocation where
  source : Source
  name : Option String
  operands : List String
  options : Options.Change

namespace Invocation

/-- What is read of the options: those to switch, whether the commands are an argument, and the
arguments that are left. -/
abbrev Read := Options.Change × Bool × List String

def readOptions (d : Dialect) : Nat → List String → Options.Change → Bool → Except String Read
  | 0, rest, change, hasText => .ok (change, hasText, rest)
  | _, [], change, hasText => .ok (change, hasText, [])
  | n + 1, w :: rest, change, hasText =>
    match w.toList with
    | ['-'] => .ok (change, hasText, rest)
    | ['-', '-'] => .ok (change, hasText, rest)
    | '-' :: '-' :: name =>
      if d == .extended then
        let known := ["norc", "noprofile", "posix", "login", "noediting", "restricted"]
        if known.contains (String.ofList name) then readOptions d n rest change hasText
        else .error (w ++ ": invalid option")
      else .error (Options.wrong '-')
    | sign :: c :: cs =>
      if sign == '-' || sign == '+' then do
        let own := if d == .extended then "clsi" else "cl"
        let letters := (c :: cs).filter fun c => !own.toList.contains c
        let hasText := hasText || (c :: cs).contains 'c'
        let change := if d == .extended && (c :: cs).contains 's' then
          { change with switched := change.switched ++ [(true, .inl 's')] } else change
        let (change, rest) ← Options.ofLetters d (sign == '-') letters rest change
        readOptions d n rest change hasText
      else .ok (change, hasText, w :: rest)
    | _ => .ok (change, hasText, w :: rest)

def read (d : Dialect) (arguments : List String) : Except String Invocation := do
  let (options, hasText, rest) ← readOptions d (arguments.length + 1) arguments {} false
  let readsInput := options.switched.any fun (on, which) => on && which == .inl 's'
  match hasText, rest with
  | true, [] =>
    .error (if d == .plain then "-c requires an argument" else "-c: option requires an argument")
  | true, text :: name :: operands => .ok ⟨.text text, some name, operands, options⟩
  | true, [text] => .ok ⟨.text text, none, [], options⟩
  | false, [] => .ok ⟨.input, none, [], options⟩
  | false, path :: operands =>
    if readsInput then .ok ⟨.input, none, path :: operands, options⟩
    else .ok ⟨.file path, some path, operands, options⟩

end Invocation

namespace Start

def depth : Nat := 1000000

def interpreter : Interpreter := { evaluate := Evaluation.evaluate depth }

def directory (view : View) (environment : List (String × String)) : String :=
  match environment.lookup "PWD" with
  | some path =>
    let isTrue := path.startsWith "/" &&
      (match view.location path true with
      | .ok location => location == view.cwd
      | .error _ => false)
    if isTrue then path else view.directory
  | none => view.directory

def bindings (d : Dialect) (view : View) (environment : List (String × String)) :
    List (String × Variable) :=
  let shell (text : String) : Variable := { value := some text }
  let inherited := environment.filterMap fun (name, text) =>
    if isName name then some (name, { value := some text, isExported := true : Variable }) else none
  let defaults := [("PATH", shell State.defaultPath), ("PS1", shell "# "), ("PS2", shell "> "),
    ("PS4", shell "+ ")].filter fun v => !inherited.any (·.1 == v.1)
  let isInherited (name : String) : Bool := inherited.any (·.1 == name)
  let level : List (String × Variable) := if d == .plain then [] else
    let n := ((environment.lookup "SHLVL").bind String.toNat?).getD 0
    [("SHLVL", { value := some (toString (n + 1)), isExported := true })]
  let fixed : List (String × Variable) := [
    ("IFS", { value := some " \t\n", isExported := isInherited "IFS" }),
    ("OPTIND", { value := some "1", isExported := isInherited "OPTIND" }),
    ("PPID", { value := some (toString view.parent) }),
    ("PWD", { value := some (directory view environment), isExported := true })] ++ level
  (inherited.filter fun v => !fixed.any (·.1 == v.1)) ++ defaults ++ fixed

def state (d : Dialect) (view : View) (name : String) (environment : List (String × String)) :
    State where
  dialect := d
  name
  bindings := (bindings d view environment).reverse
  options := if d == .plain then [] else ['h', 'B']
  line := 0
  pid := view.pid
  directory := directory view environment

def refuse (d : Dialect) (message : String) (status : Nat) : ShellM Unit := do
  if d == .plain then ShellM.warn message
  else
    let _ ← ShellM.writeTo 2 ((← get).name ++ ": " ++ message ++ "\n")
  ShellM.setStatus status

def run (d : Dialect) (v : Invocation) : ShellM Unit := do
  let s ← get
  let letter := match v.source with
    | .text _ => 'c'
    | _ => 's'
  match v.source with
  | .file _ => pure ()
  | _ => if d == .extended || letter == 's' then modify (·.setOption letter true)
  modify fun s => Options.switch { s with positional := v.operands } v.options
  v.options.shows.forM fun asList => do
    let _ ← Builtin.print (Options.shown (← get) asList)
  match v.source with
  | .text text =>
    modify fun s => { s with name := v.name.getD s.name }
    let _ ← interpreter.runText text { exits := true }
  | .input =>
    let text ← ShellM.act (Act.readAll 0)
    let _ ← interpreter.runText (text.toOption.getD "") {}
  | .file path =>
    match ← ShellM.sys (.open path .input) with
    | .error e =>
      if d == .plain then
        refuse d ("cannot open " ++ path ++ ": " ++ Redirecting.reason e false) 2
      else refuse d (path ++ ": " ++ e.message) (if e = .missing then 127 else 126)
    | .ok fd =>
      let text ← ShellM.act (Act.readAll fd)
      let _ ← ShellM.sys (.close fd)
      if d == .extended && text.toOption.isNone then
        set { s with name := s.name }
        refuse d (path ++ ": " ++ path ++ ": Is a directory") 126
      else
        modify ({ · with name := path })
        let _ ← interpreter.runText (text.toOption.getD "") {}

def program (d : Dialect) (arguments : List String) (environment : List (String × String)) :
    Program :=
  let name := arguments.headD "sh"
  Act.look fun view =>
    let step : ShellM Unit := do
      match Invocation.read d (arguments.drop 1) with
      | .error message => refuse d message 2
      | .ok v => run d v
    interpreter.program step (state d view name environment)

end Start

end Remedy.Shell
