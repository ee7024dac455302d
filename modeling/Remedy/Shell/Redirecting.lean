import Remedy.Shell.Expansion
import Remedy.Unix.Sight

namespace Remedy.Shell

open Unix Files

abbrev Hidden := List (Nat × Option Nat)

namespace Redirecting

/-- The least number under which a shell keeps descriptors aside. -/
def asideFrom : Nat := 10

def reason (e : Errno) (creates : Bool) : String :=
  match e with
  | .missing | .notDirectory => if creates then "Directory nonexistent" else "No such file"
  | e => e.message

/-- Keeps a descriptor aside, unless that was done already. -/
def hide (fd : Nat) (hidden : Hidden) : ShellM Hidden := do
  if (hidden.lookup fd).isSome then return hidden
  match ← ShellM.sys (.copy fd asideFrom true) with
  | .ok copy => return (fd, some copy) :: hidden
  | .error _ => return (fd, none) :: hidden

def restore (hidden : Hidden) : ShellM Unit :=
  hidden.forM fun (fd, copy) => do
    match copy with
    | some copy =>
      let _ ← ShellM.sys (.copyTo copy fd)
      let _ ← ShellM.sys (.close copy)
    | none =>
      let _ ← ShellM.sys (.close fd)

def moveTo (opened fd : Nat) : ShellM Unit := do
  unless opened = fd do
    let _ ← ShellM.sys (.copyTo opened fd)
    let _ ← ShellM.sys (.close opened)

/-- What a redirection complains of; it breaks off without ending the shell. -/
abbrev Outcome := Except String Unit

def opening (s : State) (mode : FileMode) (exists' : Bool) : Opening × Bool :=
  match mode with
  | .read => (.input, false)
  | .write =>
    if s.isOn 'C' && !exists' then ({ Opening.output with exclusive := true }, true)
    else (.output, true)
  | .overwrite => (.output, true)
  | .append => (.appending, true)
  | .readWrite => ({ reads := true, writes := true, create := true }, true)

def failure (s : State) (path : String) (e : Errno) (creates : Bool) : String :=
  if s.dialect == .plain then
    "cannot " ++ (if creates then "create " else "open ") ++ path ++ ": " ++ reason e creates
  else path ++ ": " ++ e.message

def openFile (fd : Nat) (mode : FileMode) (path : String) : ShellM Outcome := do
  let s ← get
  let view ← ShellM.look
  let there := view.status path true
  let isRegular := match there with
    | .ok t => t.kind == .regular
    | .error _ => false
  if mode == .write && s.isOn 'C' && isRegular then
    return .error (if s.dialect == .plain then failure s path .exists true
      else path ++ ": cannot overwrite existing file")
  let (o, creates) := opening s mode there.toOption.isSome
  match ← ShellM.sys (.open path o) with
  | .ok opened =>
    moveTo opened fd
    return .ok ()
  | .error e => return .error (failure s path e creates)

def openText (fd : Nat) (text : String) : ShellM Outcome := do
  moveTo (← Expansion.provide text) fd
  return .ok ()

def duplicate (fd : Nat) (source : String) : ShellM Outcome := do
  let s ← get
  if source == "-" then
    let _ ← ShellM.sys (.close fd)
    return .ok ()
  else
    let moves := s.dialect == .extended && source.endsWith "-"
    let digits := source.toList.filter Char.isDigit
    let isNumber := !digits.isEmpty && (digits.length = source.length || moves) &&
      (s.dialect == .extended || digits.length = 1)
    if !isNumber then
      return .error (if s.dialect == .plain then "Syntax error: Bad fd number"
        else source ++ ": ambiguous redirect")
    else
      let n := Arithmetic.valueIn 10 digits
      if n = fd then
        match ← ShellM.sys (.seek n 0 .current) with
        | .error .badDescriptor => return .error (toString n ++ ": " ++ Errno.badDescriptor.message)
        | _ => return .ok ()
      else
        match ← ShellM.sys (.copyTo n fd) with
        | .ok _ =>
          if moves then
            let _ ← ShellM.sys (.close n)
          return .ok ()
        | .error e => return .error (toString n ++ ": " ++ e.message)

def replaced : Redirection → List Nat
  | .file fd .. | .duplicate fd _ | .document fd _ | .text fd _ => [fd]
  | .both .. => [1, 2]

inductive Ready where
  | file (fd : Nat) (mode : FileMode) (path : String)
  | duplicate (fd : Nat) (source : String)
  | text (fd : Nat) (content : String)
  | both (append : Bool) (path : String)

def ready (run : Expansion.Runner) : Redirection → ShellM Ready
  | .file fd mode target => return .file fd mode (← Expansion.single run target)
  | .duplicate fd source => return .duplicate fd (← Expansion.single run source)
  | .document fd number => do
    let body := ((← get).documents.lookup number).getD []
    return .text fd (← Expansion.document run body)
  | .text fd word => return .text fd ((← Expansion.single run word) ++ "\n")
  | .both append target => return .both append (← Expansion.single run target)

def perform : Ready → ShellM Outcome
  | .file fd mode path => openFile fd mode path
  | .duplicate fd source => duplicate fd source
  | .text fd content => openText fd content
  | .both append path => do
    match ← openFile 1 (if append then .append else .write) path with
    | .ok _ => duplicate 2 "1"
    | e => return e

/-- Carries out redirections one after another; one that fails undoes those before it. -/
def apply (keeps : Bool) : Hidden → List (Redirection × Ready) → ShellM (Except String Hidden)
  | hidden, [] => return .ok hidden
  | hidden, (r, ready) :: rest => do
    let hidden ← if keeps then
        (replaced r).foldlM (fun hidden fd => hide fd hidden) hidden
      else pure hidden
    match ← perform ready with
    | .ok _ => apply keeps hidden rest
    | .error message =>
      restore hidden
      return .error message

def start (run : Expansion.Runner) (keeps : Bool) (rs : List Redirection) :
    ShellM (Option Hidden) := do
  let prepared ← rs.mapM fun r => return (r, ← ready run r)
  match ← apply keeps [] prepared with
  | .ok hidden => return some hidden
  | .error message =>
    ShellM.warn message
    return none

end Redirecting

end Remedy.Shell
