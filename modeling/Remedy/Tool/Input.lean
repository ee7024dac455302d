import Remedy.Tool.Basic

namespace Remedy.Tool

open Unix Files

structure Input where
  paths : List String
  separator : Char := '\n'
  descriptor : Option Nat := none
  path : String := "-"
  lines : List String := []
  rest : String := ""
  complaint : String → Errno → String := fun path e => quoted path ++ ": " ++ e.message
  status : Nat := 1
  /-- The status of the tool where it ends at once because of such a file. -/
  ending? : Errno → Option Nat := fun _ => none

namespace Input

def ofPaths (paths : List String) : Input :=
  { paths := if paths.isEmpty then ["-"] else paths }

def leave (i : Input) : Tool Input := do
  match i.descriptor with
  | some fd =>
    if fd ≠ 0 then
      let _ ← sys (.close fd)
    return { i with descriptor := none, lines := [], rest := "" }
  | none => return i

def give (i : Input) (path : String) (e : Errno) : Tool Input := do
  match i.ending? e with
  | some status =>
    -- what was printed comes behind
    writeError ((← get).name ++ ": " ++ i.complaint path e ++ "\n")
    setStatus status
    stop
  | none =>
    complain (i.complaint path e)
    note i.status
  { i with lines := [], rest := "" }.leave

/-- Reads until a line is complete or the file at hand ends; `none` if nothing is left at all. -/
def nextWith : Nat → Input → Tool (Option (String × Bool) × Input)
  | 0, i => return (none, i)
  | n + 1, i =>
    match i.lines with
    | line :: rest => return (some (line, true), { i with lines := rest })
    | [] =>
      match i.descriptor with
      | none =>
        match i.paths with
        | [] => return (none, i)
        | path :: paths => do
          let i := { i with paths, path }
          if path == "-" then nextWith n { i with descriptor := some 0 }
          else
            match ← sys (.open path .input) with
            | .ok fd => nextWith n { i with descriptor := some fd }
            | .error e => nextWith n (← i.give path e)
      | some fd => do
        match ← sys (.read fd Act.block) with
        | .error e => nextWith n (← i.give i.path e)
        | .ok data =>
          if data.isEmpty then
            let rest := i.rest
            let i ← i.leave
            if rest == "" then nextWith n i else return (some (rest, false), i)
          else
            let text := Text.Octets.ofBytes data
            if text.toList.contains i.separator then
              let pieces := (i.rest ++ text).splitOn (String.singleton i.separator)
              nextWith n { i with lines := pieces.dropLast, rest := pieces.getLastD "" }
            else nextWith n { i with rest := i.rest ++ text }

def next (i : Input) : Tool (Option (String × Bool) × Input) := nextWith Act.limit i

end Input

/-- Does something with every line; `none` stops. -/
def foldLinesWith (step : σ → String → Bool → Tool (Option σ)) : Nat → Input → σ → Tool σ
  | 0, _, s => return s
  | n + 1, i, s => do
    match ← i.next with
    | (none, _) => return s
    | (some (line, isEnded), i) =>
      match ← step s line isEnded with
      | some s => foldLinesWith step n i s
      | none => return s

def foldLines (i : Input) (s : σ) (step : σ → String → Bool → Tool (Option σ)) : Tool σ :=
  foldLinesWith step Act.limit i s

/-- Prints what becomes of every line; the end of a line stays as it is. -/
def mapLines (i : Input) (f : String → String) : Tool Unit :=
  foldLines i () fun _ line isEnded => do
    put (f line)
    if isEnded then put (String.singleton i.separator)
    return some ()

end Remedy.Tool
