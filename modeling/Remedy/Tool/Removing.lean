import Remedy.Tool.Basic

namespace Remedy.Tool.Removing

open Unix Files

structure Removal where
  isRecursive : Bool
  isForced : Bool
  takesEmpty : Bool
  asks : Bool
  tells : Bool

/-- Removes what stands under a path; tells whether it is gone. -/
def removeAt (r : Removal) : Nat → String → Tool Bool
  | 0, _ => return false
  | depth + 1, path => do
    let v ← look
    let cannot (e : Errno) : Tool Bool := do
      complain ("cannot remove " ++ quotedAlways path ++ ": " ++ e.message)
      note 1
      return false
    match v.status path false with
    | .error e =>
      if r.isForced && (e = .missing || e = .notDirectory) then return true else cannot e
    | .ok s =>
      if s.kind != .directory then
        let agreed ← if r.asks then
            confirm ("remove " ++ s.kindName ++ " " ++ quotedAlways path)
          else pure true
        if !agreed then return false
        else
          match ← change (.removeFile path) with
          | .ok _ =>
            if r.tells then putLine ("removed " ++ quotedAlways path)
            return true
          | .error e => cannot e
      else if !r.isRecursive && !r.takesEmpty then cannot .isDirectory
      else
        let inner := ((v.node path true).toOption.elim [] Node.entries).map fun e =>
          Text.Octets.ofList e.1
        let remove : Tool Bool := do
          let agreed ← if r.asks then confirm ("remove directory " ++ quotedAlways path)
            else pure true
          if !agreed then return false
          else
            match ← change (.removeDirectory path) with
            | .ok _ =>
              if r.tells then putLine ("removed directory " ++ quotedAlways path)
              return true
            | .error e => cannot e
        if inner.isEmpty || !r.isRecursive then remove
        else
          let agreed ← if r.asks then confirm ("descend into directory " ++ quotedAlways path)
            else pure true
          if !agreed then return false
          else
            let gone ← inner.mapM fun name => removeAt r depth (join path name)
            if gone.all id then remove else return false

structure Manner where
  ignoresMissing : Bool := false
  asks : Bool := false
  asksOnce : Bool := false
  keepsRoot : Bool := true

def Manner.take (m : Manner) (key argument : String) : Tool Manner := do
  match key with
  | "f" => return { m with ignoresMissing := true, asks := false, asksOnce := false }
  | "i" => return { m with ignoresMissing := false, asks := true, asksOnce := false }
  | "I" => return { m with ignoresMissing := false, asks := false, asksOnce := true }
  | "interactive" =>
    let choice ← if argument == "" then pure "always"
      else choose "--interactive" [["never", "no", "none"], ["once"], ["always", "yes"]] argument
    return { m with
      ignoresMissing := m.ignoresMissing && choice == "never"
      asks := choice == "always", asksOnce := choice == "once" }
  | "no-preserve-root" => return { m with keepsRoot := false }
  | "preserve-root" =>
    if argument != "" && argument != "all" then
      fail 1 ("unrecognized --preserve-root argument: " ++ quotedAlways argument)
    else return { m with keepsRoot := true }
  | _ => return m

def rm (words : List String) : Tool Unit := do
  let g ← given [opt 'r' "recursive", opt 'R' "", opt 'f' "force", opt 'i' "", opt 'I' "",
    opt 'd' "dir", opt 'v' "verbose", long "one-file-system", long "no-preserve-root",
    long "preserve-root" .maybe, long "interactive" .maybe] words
  let m ← g.options.foldlM (fun m (key, argument) => Manner.take m key argument) ({} : Manner)
  unless m.ignoresMissing do demand g 1
  let r : Removal := {
    isRecursive := g.has "r" || g.has "R", isForced := m.ignoresMissing, takesEmpty := g.has "d"
    asks := m.asks, tells := g.has "v" }
  let count := g.operands.length
  let goes ← if m.asksOnce && (r.isRecursive || count > 3) then
      confirm ("remove " ++ toString count ++ (if count = 1 then " argument" else " arguments") ++
        (if r.isRecursive then " recursively" else ""))
    else pure true
  if goes then
    g.operands.forM fun path => do
      let name := baseName path
      if r.isRecursive && withoutSlashes path == "/" && m.keepsRoot then
        complain "it is dangerous to operate recursively on '/'"
        complain "use --no-preserve-root to override this failsafe"
        note 1
      else if (r.isRecursive || r.takesEmpty) && (name == "." || name == "..") then
        complain ("refusing to remove '.' or '..' directory: skipping " ++ quotedAlways path)
        note 1
      else
        let _ ← removeAt r 4096 path

def unlink (words : List String) : Tool Unit := do
  let g ← given [] words
  demand g 1
  bound g 1
  let path := g.operands.headD ""
  match ← change (.removeFile path) with
  | .ok _ => pure ()
  | .error e => fail 1 ("cannot unlink " ++ quotedAlways path ++ ": " ++ e.message)

def catalogue : List (String × (List String → Tool Unit)) := [("rm", rm), ("unlink", unlink)]

end Remedy.Tool.Removing
