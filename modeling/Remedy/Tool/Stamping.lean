import Remedy.Calendar.Reading
import Remedy.Tool.Basic

namespace Remedy.Tool.Stamping

open Unix Files

def namedMoment (text : String) (base : Int) : Tool Int := do
  match Calendar.read? text base with
  | some n => return n
  | none => fail 1 ("invalid date format " ++ quotedAlways text)

/-- The moment that a tool is told to stamp files with; `none` is now. -/
def moment (g : Given) : Tool (Option Int) := do
  let v ← look
  let stamp ← match g.argument? "t" with
    | none => pure none
    | some text =>
      match Calendar.readStamp? text v.files.now with
      | some n => pure (some n)
      | none => fail 1 ("invalid date format " ++ quotedAlways text)
  if stamp.isSome && (g.has "r" || g.has "d") then
    refuse 1 "cannot specify times from more than one source"
  match g.argument? "r", g.argument? "d" with
  | some path, text =>
    match v.status path (!g.has "h") with
    | .error e => fail 1 ("failed to get attributes of " ++ quotedAlways path ++ ": " ++ e.message)
    | .ok s =>
      match text with
      | some text => return some (← namedMoment text s.modified)
      | none => return some s.modified
  | none, some text => return some (← namedMoment text v.files.now)
  | none, none => return stamp

def makeFile (path : String) : Tool (Except Errno Unit) := do
  match ← sys (.open path { writes := true, create := true }) with
  | .ok fd =>
    let _ ← sys (.close fd)
    return .ok ()
  | .error e => return .error e

def touch (words : List String) : Tool Unit := do
  let g ← given [opt 'a' "", opt 'c' "no-create", opt 'd' "date" .argument, opt 'f' "",
    opt 'h' "no-dereference", opt 'm' "", opt 'r' "reference" .argument, opt 't' "" .argument,
    long "time" .argument] words
  let times ← (g.argumentsOf "time").mapM
    (choose "--time" [["atime", "access", "use"], ["mtime", "modify"]])
  let given? ← moment g
  demand g 1 1 "file operand"
  let follow := !g.has "h"
  let isAccessOnly := (g.has "a" || times.contains "atime") && !g.has "m" && !times.contains "mtime"
  g.operands.forM fun path => do
    if path != "-" then
      let v ← look
      let isThere := (v.node path follow).toOption.isSome
      let opened ← if isThere || g.has "c" || g.has "h" then pure (.ok ()) else makeFile path
      let stamped ← if isAccessOnly then
          pure (((← look).node path follow).map fun _ => ())
        else change (.setTime path (given?.getD v.files.stampTime) follow)
      match opened, stamped with
      | .error e, .error e' =>
        if e = .isDirectory then
          complain ("setting times of " ++ quotedAlways path ++ ": " ++ e'.message)
        else complain ("cannot touch " ++ quotedAlways path ++ ": " ++ e.message)
        note 1
      | .ok _, .error e =>
        if !(g.has "c" && e = .missing) then
          complain ("setting times of " ++ quotedAlways path ++ ": " ++ e.message)
          note 1
      | _, .ok _ => pure ()

def catalogue : List (String × (List String → Tool Unit)) := [("touch", touch)]

end Remedy.Tool.Stamping
