import Remedy.Shell.Builtin.Extended
import Remedy.Shell.Builtin.Jobs
import Remedy.Shell.Builtin.Place
import Remedy.Shell.Builtin.Printing
import Remedy.Shell.Syntax.Tokens

namespace Remedy.Shell.Builtin

open Unix

def shownAlias (extended : Bool) (a : String × String) : String :=
  if extended then "alias " ++ a.1 ++ "=" ++ Expansion.singleQuoted a.2 ++ "\n"
  else a.1 ++ "=" ++ quoted a.2 ++ "\n"

def setAlias (name value : String) : ShellM Unit := modify fun s =>
  { s with aliases :=
      if s.aliases.any (·.1 == name) then
        s.aliases.map fun a => if a.1 == name then (name, value) else a
      else s.aliases ++ [(name, value)] }

def aliasCommand (_ : Interpreter) (words : List String) : ShellM Nat := do
  let s ← get
  let extended := s.dialect == .extended
  match words with
  | [] =>
    let all := if extended then byName s.aliases else State.byRow 39 s.aliases
    print (String.join (all.map (shownAlias extended)))
  | words =>
    let statuses ← words.mapM fun w => do
      let name := w.toList.takeWhile (· ≠ '=')
      match w.toList.drop name.length with
      | _ :: value =>
        setAlias (String.ofList name) (String.ofList value)
        return 0
      | [] =>
        match (← get).aliases.lookup w with
        | some value => print (shownAlias extended (w, value))
        | none =>
          if extended then ShellM.warn (w ++ ": not found")
          else
            let _ ← ShellM.writeTo 2 ("alias: " ++ w ++ " not found\n")
          return 1
    return statuses.foldl max 0

def unalias (_ : Interpreter) (words : List String) : ShellM Nat := do
  let g ← given "a" "" words
  if g.has 'a' then
    modify ({ · with aliases := [] })
    return 0
  else
    let extended ← ShellM.isExtended
    let statuses ← g.operands.mapM fun name => do
      let s ← get
      if s.aliases.any (·.1 == name) then
        set { s with aliases := s.aliases.filter (·.1 ≠ name) }
        return 0
      else
        if extended then ShellM.warn (name ++ ": not found")
        else
          let _ ← ShellM.writeTo 2 ("unalias: " ++ name ++ " not found\n")
        return 1
    return statuses.foldl max 0

inductive Meaning where
  | keyword
  | alias (value : String)
  | function
  | builtin (isSpecial : Bool)
  | known (path : String)
  | program (path : String)
  | nothing

abbrev Names := List (String × Bool)

def meaning (builtins : Names) (directories : List String) (remembers : Bool) (name : String) :
    ShellM Meaning := do
  let s ← get
  let keywords := if s.dialect == .plain then Tokens.keywords else Tokens.extendedKeywords
  if keywords.contains name then return .keyword
  else
    match s.aliases.lookup name with
    | some value => return .alias value
    | none =>
      if name.toList.contains '/' then
        let view ← ShellM.look
        return if view.exists? name then .program name else .nothing
      else if s.functions.any (·.1 == name) then return .function
      else
        match builtins.lookup name with
        | some isSpecial => return .builtin isSpecial
        | none =>
          match if remembers then s.known.lookup name else none with
          | some path => return .known path
          | none =>
            let view ← ShellM.look
            match view.program? directories name with
            | some path => return .program path
            | none => return .nothing

def remember (name path : String) : ShellM Unit :=
  modify fun s => { s with known := (s.known.filter (·.1 ≠ name)) ++ [(name, path)] }

/-- Tells what a name stands for, at length or only by what would be run. -/
def describe (builtins : Names) (directories : List String) (remembers atLength : Bool)
    (name : String) : ShellM Nat := do
  let extended ← ShellM.isExtended
  let m ← meaning builtins directories remembers name
  let text : String :=
    match m with
    | .keyword => if atLength then name ++ " is a shell keyword" else name
    | .alias value =>
      if atLength then
        if extended then name ++ " is aliased to `" ++ value ++ "'"
        else name ++ " is an alias for " ++ value
      else "alias " ++ name ++ "=" ++ quoted value
    | .function =>
      if atLength then name ++ (if extended then " is a function" else " is a shell function")
      else name
    | .builtin isSpecial =>
      if atLength then
        name ++ " is a " ++ (if isSpecial && !extended then "special " else "") ++ "shell builtin"
      else name
    | .known path =>
      if atLength then
        if extended then name ++ " is hashed (" ++ path ++ ")"
        else name ++ " is a tracked alias for " ++ path
      else path
    | .program path => if atLength then name ++ " is " ++ path else path
    | .nothing => ""
  match m with
  | .program path =>
    unless extended || !remembers || name.toList.contains '/' do remember name path
    print (text ++ "\n")
  | .nothing =>
    if extended then
      if atLength then ShellM.warn (name ++ ": not found")
      return 1
    else
      if atLength then
        let _ ← print (name ++ ": not found\n")
      return 127
  | _ => print (text ++ "\n")

def command (builtins : Names) (_ : Interpreter) (words : List String) : ShellM Nat := do
  let g ← given "pvV" "" words
  let s ← get
  let usesDefault := g.has 'p'
  let directories := if usesDefault then
      (Text.segments ':' State.defaultPath.toList).map String.ofList
    else s.searchPath
  match g.operands with
  | [] => return 0
  | name :: rest =>
    if g.has 'v' || g.has 'V' then
      let names := if s.dialect == .extended then name :: rest else [name]
      let statuses ← names.mapM (describe builtins directories (!usesDefault) (g.has 'V'))
      return statuses.getLastD 0
    else return 0

def type (builtins : Names) (_ : Interpreter) (words : List String) : ShellM Nat := do
  let s ← get
  if s.dialect == .extended then
    let g ← given "aftpP" "" words
    let statuses ← g.operands.mapM fun name => do
      if g.has 't' then
        match ← meaning builtins s.searchPath true name with
        | .keyword => print "keyword\n"
        | .alias _ => print "alias\n"
        | .function => print "function\n"
        | .builtin _ => print "builtin\n"
        | .known _ | .program _ => print "file\n"
        | .nothing => return 1
      else if g.has 'p' || g.has 'P' then
        match ← meaning [] s.searchPath true name with
        | .known path | .program path => print (path ++ "\n")
        | _ => return 1
      else describe builtins s.searchPath true true name
    return statuses.foldl max 0
  else
    let statuses ← words.mapM (describe builtins s.searchPath true true)
    return statuses.foldl (fun a b => if b = 0 then a else b) 0

def hash (builtins : Names) (_ : Interpreter) (words : List String) : ShellM Nat := do
  let g ← given "r" "" words
  if g.has 'r' then modify ({ · with known := [] })
  let s ← get
  if g.operands.isEmpty then
    if g.has 'r' then return 0
    else if s.dialect == .extended then
      if s.known.isEmpty then print "hash: hash table empty\n"
      else print ("hits\tcommand\n" ++ String.join (s.known.map fun k => "   1\t" ++ k.2 ++ "\n"))
    else print (String.join ((State.byRow 31 s.known).map fun k => k.2 ++ "\n"))
  else
    let statuses ← g.operands.mapM fun name => do
      match ← meaning builtins s.searchPath false name with
      | .program path =>
        unless name.toList.contains '/' do remember name path
        return 0
      | .nothing =>
        ShellM.warn (name ++ ": not found")
        return 1
      | _ => return 0
    return statuses.foldl max 0

def nameBuiltins (others : Names) : List (String × Builtin) :=
  let names := others ++ [("alias", false), ("unalias", false), ("command", false), ("type", false),
    ("hash", false)]
  [("alias", { run := aliasCommand }),
    ("unalias", { run := unalias }),
    ("command", { run := command names }),
    ("type", { run := type names }),
    ("hash", { run := hash names })]

def ofAll : List (String × Builtin) :=
  printing ++ variableBuiltins ++ control ++ jobBuiltins ++ place

def complete (others : List (String × Builtin)) : List (String × Builtin) :=
  others ++ nameBuiltins (others.map fun (name, b) => (name, b.isSpecial))

def plainTable : List (String × Builtin) := complete ofAll

def extendedTable : List (String × Builtin) :=
  complete ((ofAll ++ extended).filter (·.1 ≠ "chdir"))

def find? (d : Dialect) (name : String) : Option Builtin :=
  match d with
  | .plain => plainTable.lookup name
  | .extended => extendedTable.lookup name

end Remedy.Shell.Builtin
