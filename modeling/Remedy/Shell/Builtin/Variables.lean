import Remedy.Shell.Builtin.Basic
import Remedy.Shell.Options

namespace Remedy.Shell.Builtin

def splitAssignment (w : String) : String × Option String :=
  let name := w.toList.takeWhile (· ≠ '=')
  match w.toList.drop name.length with
  | [] => (w, none)
  | _ :: text => (String.ofList name, some (String.ofList text))

def demandName (name : String) : ShellM Unit := do
  unless isName (State.splitName name).1 do
    if (← get).dialect == .plain then ShellM.fail (name ++ ": bad variable name")
    else ShellM.fail ("`" ++ name ++ "': not a valid identifier")

def setVariable (name text : String) : ShellM Unit := do
  demandName name
  ShellM.assign name text

def shownVariable (head : String) (v : String × Variable) : String :=
  head ++ v.1 ++ (v.2.value.elim "" fun t => "=" ++ quoted t) ++ "\n"

def shownElements (v : Variable) (elements : List (String × String)) : String :=
  let one (e : String × String) := "[" ++ e.1 ++ "]=\"" ++ e.2 ++ "\""
  "(" ++ " ".intercalate (elements.map one) ++ (if v.isKeyed then " )" else ")")

def declaration (v : String × Variable) : String :=
  let letters := (if v.2.elements.isSome then if v.2.isKeyed then "A" else "a" else "") ++
    (if v.2.isInteger then "i" else "") ++ (if v.2.isReadOnly then "r" else "") ++
    (if v.2.isExported then "x" else "")
  let text := match v.2.elements with
    | some es => "=" ++ shownElements v.2 es
    | none => v.2.value.elim "" fun t => "=\"" ++ String.join (t.toList.map fun c =>
        (if "\"\\$`".toList.contains c then "\\" else "") ++ String.singleton c) ++ "\""
  "declare -" ++ (if letters == "" then "-" else letters) ++ " " ++ v.1 ++ text ++ "\n"

def setOptions (_ : Interpreter) (words : List String) : ShellM Nat := do
  let s ← get
  match words with
  | [] =>
    let all := (byName s.bindings).filter fun v => v.2.value.isSome || v.2.elements.isSome
    if s.dialect == .plain then print (String.join (all.map (shownVariable "")))
    else print (String.join (all.map fun v =>
      match v.2.elements with
      | some es => v.1 ++ "=" ++ shownElements v.2 es ++ "\n"
      | none => v.1 ++ "=" ++ v.2.value.getD "" ++ "\n"))
  | words =>
    match Options.read s.dialect (words.length + 1) words {} with
    | .error message =>
      if s.dialect == .plain then ShellM.fail message
      else
        ShellM.warn (if message.startsWith "Illegal option -o " then
            String.ofList (message.toList.drop 18) ++ ": invalid option name"
          else String.ofList (message.toList.drop 15) ++ ": invalid option")
        return 2
    | .ok change =>
      modify fun s => Options.switch s change
      change.shows.forM fun asList => do
        let _ ← print (Options.shown (← get) asList)
      if s.dialect == .plain && (← get).isOn 'm' then
        ShellM.warn "can't access tty; job control turned off"
        modify (·.setOption 'm' false)
      match change.operands with
      | some operands => modify ({ · with positional := operands, cursor := {} })
      | none => pure ()
      return 0

def shiftOperands (_ : Interpreter) (words : List String) : ShellM Nat := do
  let n ← match words with
    | [] => pure 1
    | w :: _ => number w
  let s ← get
  if n > s.positional.length then
    if s.dialect == .plain then ShellM.fail "can't shift that many" else return 1
  else
    modify fun s => { s with positional := s.positional.drop n, cursor := {} }
    return 0

def unsetVariable (name : String) : ShellM Unit := do
  demandName name
  let s ← get
  let (base, index) := State.splitName name
  if (s.binding? base).any (·.isReadOnly) then
    if s.dialect == .plain then ShellM.fail (name ++ ": is read only")
    else ShellM.fail (name ++ ": cannot unset: readonly variable")
  else
    match index with
    | none => modify (·.setBinding base none)
    | some i => Scope.mark base fun v =>
        { v with elements := v.elements.map fun es => es.filter (·.1 ≠ i) }

def unsetNames (_ : Interpreter) (words : List String) : ShellM Nat := do
  let g ← given "vf" "" words
  let onlyFunctions := g.options.getLast?.any (·.1 == 'f')
  let extended ← ShellM.isExtended
  g.operands.forM fun name => do
    let s ← get
    let isFunction := onlyFunctions ||
      (extended && g.options.isEmpty && (s.binding? name).isNone)
    if isFunction then
      modify fun s => { s with functions := s.functions.filter (·.1 ≠ name) }
    else unsetVariable name
  return 0

def marking (name : String) (has : Variable → Bool) (f : Variable → Variable)
    (words : List String) : ShellM Nat := do
  let extended ← ShellM.isExtended
  let g ← given (if extended then "pnfaA" else "p") "" words
  let s ← get
  if g.has 'p' || g.operands.isEmpty then
    let marked := (byName s.bindings).filter fun v => has v.2
    print (String.join (marked.map (if extended then declaration
      else shownVariable (name ++ " "))))
  else
    g.operands.forM fun w => do
      let (name, text) := splitAssignment w
      let name := if extended && name.endsWith "+" then String.ofList name.toList.dropLast else name
      demandName name
      match text with
      | some t => do
        let old := (← get).value name
        ShellM.assign name (if name ++ "+=" ++ t == w then old ++ t else t)
      | none => pure ()
      Scope.mark name fun v => if g.has 'n' then { v with isExported := false } else f v
    return 0

def exportNames (_ : Interpreter) (words : List String) : ShellM Nat :=
  marking "export" (·.isExported) ({ · with isExported := true }) words

def readonlyNames (_ : Interpreter) (words : List String) : ShellM Nat :=
  marking "readonly" (·.isReadOnly) ({ · with isReadOnly := true }) words

def declareLocal (w : String) : ShellM Unit := do
  let (name, text) := splitAssignment w
  if w == Scope.optionsName then Scope.hide w
  else
    demandName name
    let s ← get
    Scope.hide name
    match text with
    | some t =>
      if s.dialect == .extended && !(s.binding? name).any (·.isReadOnly) then
        modify (·.setBinding name none)
      ShellM.assign name t
    | none =>
      if s.dialect == .extended then
        unless (s.hidden.head?.any fun scope => scope.any (·.1 == name)) do
          modify (·.setBinding name (some {}))

def localNames (_ : Interpreter) (words : List String) : ShellM Nat := do
  let s ← get
  if s.calls = 0 then
    if s.dialect == .plain then ShellM.fail "not in a function"
    else
      ShellM.warn "can only be used in a function"
      return 1
  else
    words.forM declareLocal
    return 0

structure OptionStep where
  name : String
  argument : Option String
  cursor : OptionCursor
  complaint : Option String := none
  isOver : Bool := false

/-- Reads the next option of operands. `letters` are the known ones, a colon behind each that takes
an argument; with a colon in front of them nothing is complained of. -/
def nextOption (letters : List Char) (operands : List String) (c : OptionCursor) : OptionStep :=
  let isSilent := letters.head? == some ':'
  let inside := if c.offset = 0 then [] else ((operands.getD (c.index - 2) "").toList).drop c.offset
  let start : Option (List Char × Nat × Nat) :=
    match inside with
    | _ :: _ => some (inside, c.index, c.offset)
    | [] =>
      match (operands.getD (c.index - 1) "").toList with
      | '-' :: x :: rest => some (x :: rest, c.index + 1, 1)
      | _ => none
  match start with
  | none => { name := "?", argument := none, cursor := { index := c.index }, isOver := true }
  | some ([], index, _) => { name := "?", argument := none, cursor := { index }, isOver := true }
  | some (['-'], index, 1) => { name := "?", argument := none, cursor := { index }, isOver := true }
  | some (x :: rest, index, offset) =>
    let after : OptionCursor := { index, offset := if rest.isEmpty then 0 else offset + 1 }
    let behind := (letters.dropWhile (· ≠ x)).drop 1
    if x == ':' || !letters.contains x then
      { name := "?"
        argument := if isSilent then some (String.singleton x) else none
        cursor := after
        complaint := if isSilent then none else some ("Illegal option -" ++ String.singleton x) }
    else if behind.head? == some ':' then
      match rest, operands[index - 1]? with
      | [], none =>
        if isSilent then
          { name := ":", argument := some (String.singleton x), cursor := { index } }
        else
          { name := "?", argument := none, cursor := { index }
            complaint := some ("No arg for -" ++ String.singleton x ++ " option") }
      | [], some a =>
        { name := String.singleton x, argument := some a, cursor := { index := index + 1 } }
      | rest, _ =>
        { name := String.singleton x, argument := some (String.ofList rest), cursor := { index } }
    else { name := String.singleton x, argument := some "", cursor := after }

def readOptions (_ : Interpreter) (words : List String) : ShellM Nat := do
  match words with
  | letters :: name :: own =>
    let s ← get
    let operands := if own.isEmpty then s.positional else own
    let cursor := if s.cursor.index > operands.length + 1 then {} else s.cursor
    let step := nextOption letters.toList operands cursor
    match step.complaint with
    | some message =>
      if s.dialect == .plain then
        let _ ← ShellM.writeTo 2 (message ++ "\n")
      else
        let letter := if message.startsWith "No arg" then (message.toList.drop 12).headD '?'
          else message.toList.getLastD '?'
        let _ ← ShellM.writeTo 2 (s.name ++ (if message.startsWith "No arg" then
            ": option requires an argument -- " else ": illegal option -- ") ++
          String.singleton letter ++ "\n")
    | none => pure ()
    unless step.isOver do
      match step.argument with
      | some a => ShellM.assign "OPTARG" (if s.dialect == .extended && a == "" then "" else a)
      | none => modify (·.setBinding "OPTARG" none)
    modify fun s => s.store "OPTIND" (toString step.cursor.index)
    modify ({ · with cursor := step.cursor })
    setVariable name step.name
    return if step.isOver then 1 else 0
  | _ =>
    if (← get).dialect == .plain then ShellM.fail "Usage: getopts optstring var [arg...]"
    else
      let _ ← ShellM.writeTo 2 "getopts: usage: getopts optstring name [arg ...]\n"
      return 2

abbrev ReadChar := Char × Bool

/-- Cuts a line into so many fields; the last one takes all that is left, without the separators at
its end if only one field is left. -/
def lineFields (separators : List Char) : Nat → List ReadChar → List String
  | 0, _ => []
  | n + 1, cs =>
    let isBlank (c : ReadChar) : Bool :=
      c.2 && separators.contains c.1 && (c.1 == ' ' || c.1 == '\t' || c.1 == '\n')
    let separates (c : ReadChar) : Bool := c.2 && separators.contains c.1
    let cs := cs.dropWhile isBlank
    let field := cs.takeWhile (!separates ·)
    let rest := cs.drop field.length
    -- blanks and one separator among them end a field
    let behind := rest.dropWhile isBlank
    let behind := match behind with
      | c :: more => if separates c then more.dropWhile isBlank else behind
      | [] => []
    let text (cs : List ReadChar) := String.ofList (cs.map (·.1))
    match n with
    | 0 =>
      if behind.isEmpty then [text field] else [text (cs.reverse.dropWhile isBlank).reverse]
    | n => text field :: lineFields separators n behind

/-- Reads a line character by character; gives it and whether it was ended. -/
def readLine (isRaw : Bool) (finish : Char) (most : Option Nat) :
    ShellM (List ReadChar × Bool) := do
  let step (s : List ReadChar × Bool) :
      Unix.Act ((List ReadChar × Bool) ⊕ (List ReadChar × Bool)) := do
    let (got, escaped) := s
    if most == some got.length then return .inr (got, true)
    else
      match ← Unix.Act.ask (.read 0 1) with
      | .error _ => return .inr (got, false)
      | .ok data =>
        match (Text.Octets.ofBytes data).toList with
        | [] => return .inr (got, false)
        | c :: _ =>
          if c == '\x00' && finish != '\x00' then return .inl (got, escaped)
          else if escaped then
            return .inl (if c == '\n' then got else (c, false) :: got, false)
          else if !isRaw && c == '\\' then return .inl (got, true)
          else if c == finish then return .inr (got, true)
          else return .inl ((c, true) :: got, false)
  let (got, isEnded) ← ShellM.act (Unix.Act.repeatUntil step (fun s => (s.1, false)) Unix.Act.limit
    ([], false))
  return (got.reverse, isEnded)

def readFields (_ : Interpreter) (words : List String) : ShellM Nat := do
  let extended ← ShellM.isExtended
  let g ← if extended then given "rse" "pdnNtau" words else given "r" "p" words
  let finish := match g.argument? 'd' with
    | some d => d.toList.headD '\x00'
    | none => '\n'
  let most := ((g.argument? 'n').orElse fun _ => g.argument? 'N').bind String.toNat?
  if g.operands.isEmpty && !extended then ShellM.fail "arg count"
  else
    let (line, isEnded) ← readLine (g.has 'r') finish most
    let separators := (← get).separators.toList
    match g.argument? 'a' with
    | some name =>
      let fields := lineFields separators (line.length + 1) line
      let fields := (fields.reverse.dropWhile (· == "")).reverse
      let elements := fields.zipIdx.map fun (f, i) => (toString i, f)
      Scope.mark name ({ · with value := none, elements := some elements })
    | none =>
      if g.operands.isEmpty then
        ShellM.assign "REPLY" (String.ofList (line.map (·.1)))
      else
        let fields := lineFields separators g.operands.length line
        (g.operands.zip fields).forM fun (name, text) => setVariable name text
    return if isEnded then 0 else 1

def variableBuiltins : List (String × Builtin) := [
  ("set", { isSpecial := true, run := setOptions }),
  ("shift", { isSpecial := true, run := shiftOperands }),
  ("unset", { isSpecial := true, run := unsetNames }),
  ("export", { isSpecial := true, declares := true, run := exportNames }),
  ("readonly", { isSpecial := true, declares := true, run := readonlyNames }),
  ("local", { isSpecial := true, declares := true, run := localNames }),
  ("getopts", { run := readOptions }),
  ("read", { run := readFields })]

end Remedy.Shell.Builtin
