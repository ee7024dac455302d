import Remedy.Shell.Builtin.Control
import Remedy.Shell.Builtin.Variables

namespace Remedy.Shell.Builtin

def marked (letters : List Char) (on : Bool) (v : Variable) : Variable :=
  letters.foldl (fun v c =>
    match c with
    | 'x' => { v with isExported := on }
    | 'r' => { v with isReadOnly := v.isReadOnly || on }
    | 'i' => { v with isInteger := on }
    | 'a' | 'A' =>
      if on && v.elements.isNone then
        { v with
          elements := some ((v.value.map fun t => [("0", t)]).getD [])
          value := none
          isKeyed := c == 'A' }
      else v
    | _ => v) v

def declare (i : Interpreter) (words : List String) : ShellM Nat := do
  let switchesOff := words.head?.any (·.startsWith "+")
  let letters := words.takeWhile fun w => w.length > 1 && (w.startsWith "-" || w.startsWith "+")
  let operands := words.drop letters.length
  let letters := letters.flatMap fun w => w.toList.drop 1
  let s ← get
  if operands.isEmpty || letters.contains 'p' then
    let chosen := (byName s.bindings).filter fun v =>
      if operands.isEmpty then v.2.value.isSome || v.2.elements.isSome
      else operands.contains v.1
    let missing := operands.filter fun name => (s.binding? name).isNone
    missing.forM fun name => ShellM.warn (name ++ ": not found")
    let status ← print (String.join (chosen.map declaration))
    return if missing.isEmpty then status else 1
  else
    let _ := i
    operands.forM fun w => do
      let (name, text) := splitAssignment w
      let appends := name.endsWith "+" && text.isSome
      let name := if appends then String.ofList name.toList.dropLast else name
      demandName name
      let base := (State.splitName name).1
      if (← get).calls > 0 && !letters.contains 'g' then
        Scope.hide base
        let known := (← get).hidden.head?.any fun scope => scope.any fun e =>
          e.1 == base && e.2.isSome
        if known && !appends then modify (·.setBinding base none)
      let before := letters.filter (· ≠ 'r')
      Scope.mark base (marked before (!switchesOff))
      match text with
      | none => pure ()
      | some t =>
        let s ← get
        if (s.binding? base).any (·.isInteger) then
          let n ← Expansion.arithmetic t
          let old ← if appends then Expansion.arithmetic (s.value name) else pure 0
          ShellM.assign name (toString (n + old))
        else ShellM.assign name (if appends then s.value name ++ t else t)
      Scope.mark base (marked (letters.filter (· == 'r')) true)
    return 0

def evaluateExpressions (_ : Interpreter) (words : List String) : ShellM Nat := do
  let values ← words.mapM Expansion.arithmetic
  return if values.getLastD 0 = 0 then 1 else 0

def shopt (_ : Interpreter) (words : List String) : ShellM Nat := do
  let g ← given "suqpo" "" words
  let s ← get
  if g.has 's' then
    modify fun s => { s with features := g.operands ++ s.features }
    return 0
  else if g.has 'u' then
    modify fun s => { s with features := s.features.filter fun f => !g.operands.contains f }
    return 0
  else
    let statuses := g.operands.map fun name => if s.has name then 0 else 1
    unless g.has 'q' do
      let _ ← print (String.join (g.operands.map fun name =>
        name ++ "".pushn ' ' (15 - name.length) ++ "\t" ++ (if s.has name then "on" else "off") ++
          "\n"))
    return statuses.foldl max 0

def mapLines (_ : Interpreter) (words : List String) : ShellM Nat := do
  let g ← given "t" "dnOsucC" words
  let text ← ShellM.act (Unix.Act.readAll 0)
  let lines := Text.segments '\n' (text.toOption.getD "").toList
  let isEnded := lines.getLast? == some []
  let lines := if isEnded then lines.dropLast else lines
  let elements := lines.zipIdx.map fun (line, i) =>
    let ending := if g.has 't' || (!isEnded && i + 1 = lines.length) then "" else "\n"
    (toString i, String.ofList line ++ ending)
  Scope.mark (g.operands.headD "MAPFILE") ({ · with value := none, elements := some elements })
  return 0

def extended : List (String × Builtin) := [
  ("declare", { declares := true, run := declare }),
  ("typeset", { declares := true, run := declare }),
  ("let", { run := evaluateExpressions }),
  ("shopt", { run := shopt }),
  ("source", { run := runFile }),
  ("mapfile", { run := mapLines }),
  ("readarray", { run := mapLines })]

end Remedy.Shell.Builtin
