import Remedy.Files.Permission
import Remedy.Tool.Accounts

namespace Remedy.Tool.Permissions

open Unix Files

inductive Telling where
  | nothing
  | changes
  | all
deriving DecidableEq, Repr

def Telling.of (g : Given) : Telling :=
  match g.last? ["v", "c"] with
  | some "v" => .all
  | some _ => .changes
  | none => .nothing

def namesIn (v : View) (path : String) : List String :=
  ((v.node path true).toOption.elim [] Node.entries).map fun e => Text.Octets.ofList e.1

/-- Keeps a tool from walking through the whole system; tells whether it was kept. -/
def isKept (g : Given) (path : String) : Tool Bool := do
  let isRoot := ((← look).location path true).toOption == some []
  if g.has "R" && isRoot && g.last? ["preserve-root", "no-preserve-root"] == some "preserve-root"
  then
    complain ("it is dangerous to operate recursively on " ++
      (if path == "/" then "'/'" else quotedAlways path ++ " (same as '/')"))
    complain "use --no-preserve-root to override this failsafe"
    note 1
    return true
  else return false

def described (s : Status) (bits : Nat) : String :=
  Permission.octal bits 4 ++ " (" ++
    String.ofList ({ s with mode := bits }.letters.toList.drop 1) ++ ")"

def changeMode (g : Given) (mode : Status → Nat → Nat) (expected : Option (Status → Nat)) :
    Nat → Bool → String → Tool Unit
  | 0, _, _ => return
  | depth + 1, isOperand, path => do
    let v ← look
    let quiet := g.has "f"
    let telling := Telling.of g
    match v.status path true with
    | .error e =>
      let isDangling := (v.status path false).toOption.isSome
      if isOperand || !isDangling then
        unless quiet do
          complain (if isDangling then "cannot operate on dangling symlink " ++ quotedAlways path
            else "cannot access " ++ quotedAlways path ++ ": " ++ e.message)
        if telling == .all then putLine (quotedAlways path ++ " could not be accessed")
        note 1
      else if telling == .all then untouched path
    | .ok s =>
      let isLink := (v.status path false).toOption.any (·.kind == .link)
      if isLink && !isOperand then
        if telling == .all then untouched path
      else
        let bits := mode s v.umask
        let _ ← change (.setMode path bits)
        if telling == .all || (telling == .changes && bits ≠ s.mode) then
          putLine (if bits = s.mode then
              "mode of " ++ quotedAlways path ++ " retained as " ++ described s bits
            else "mode of " ++ quotedAlways path ++ " changed from " ++ described s s.mode ++
              " to " ++ described s bits)
        match expected with
        | some f =>
          let wanted := f s
          if bits &&& (4095 - (wanted &&& 4095)) ≠ 0 then
            let shown (b : Nat) : String :=
              String.ofList ({ s with mode := b }.letters.toList.drop 1)
            complain (quoted path ++ ": new permissions are " ++ shown bits ++ ", not " ++
              shown wanted)
            note 1
        | none => pure ()
        if g.has "R" && s.kind == .directory && !isLink then
          (namesIn v path).forM fun name => changeMode g mode expected depth false (join path name)
where
  untouched (path : String) : Tool Unit :=
    putLine ("neither symbolic link " ++ quotedAlways path ++ " nor referent has been changed")

def modeWord : List String → Option String × List String
  | [] => (none, [])
  | "--" :: rest => (none, "--" :: rest)
  | w :: rest =>
    match w.toList with
    | '-' :: c :: _ =>
      if "rwxXstugoa,+=01234567".toList.contains c then (some w, rest)
      else
        let (m, rest) := modeWord rest
        (m, w :: rest)
    | _ =>
      let (m, rest) := modeWord rest
      (m, w :: rest)

def silence : Opt := { letter := some 'f', names := ["quiet", "silent"] }

def chmod (words : List String) : Tool Unit := do
  let (dashed, words) := modeWord words
  let g ← given [opt 'R' "recursive", opt 'v' "verbose", opt 'c' "changes", silence,
    long "reference" .argument, long "preserve-root", long "no-preserve-root"] words
  let walk (mode : Status → Nat → Nat) (expected : Option (Status → Nat)) (path : String) :
      Tool Unit := do
    unless ← isKept g path do changeMode g mode expected 4096 true path
  match g.argument? "reference" with
  | some path =>
    if dashed.isSome then refuse 1 "cannot combine mode and --reference options"
    demand g 1
    match ← status path true with
    | .ok s => g.operands.forM (walk (fun _ _ => s.mode) none)
    | .error e =>
      fail 1 ("failed to get attributes of " ++ quotedAlways path ++ ": " ++ e.message)
  | none =>
    let (text, paths) ← match dashed, g.operands with
      | some m, paths => pure (m, paths)
      | none, m :: paths => pure (m, paths)
      | none, [] => refuse 1 "missing operand"
    if paths.isEmpty then refuse 1 ("missing operand after " ++ quotedAlways text)
    match Permission.read? text with
    | none => refuse 1 ("invalid mode: " ++ quotedAlways text)
    | some m =>
      let mode (s : Status) (umask : Nat) : Nat := m.apply (s.kind == .directory) umask s.mode
      let expected := if dashed.isSome then
          some fun (s : Status) => m.apply (s.kind == .directory) 0 s.mode
        else none
      paths.forM (walk mode expected)

def ownersText (user group : Option String) : Option String :=
  match user, group with
  | some u, some g => some (u ++ ":" ++ g)
  | some u, none => some u
  | none, g => g

structure Owning where
  wanted : Accounts.Owners
  required : Accounts.Owners := {}
  telling : Telling
  isQuiet : Bool
  isRecursive : Bool
  follow : Bool
  walks : Bool
  walksOperands : Bool

def Owning.tell (o : Owning) (path : String) (isDone isChanged : Bool)
    (old : Option (String × String)) : Tool Unit := do
  if o.telling == .all || (o.telling == .changes && isChanged) then
    let user := o.wanted.userText
    let group := o.wanted.groupText
    let what := if user.isSome then "ownership" else "group"
    let now := (ownersText user group).getD ""
    let before := old.bind fun (u, g) => ownersText (user.map fun _ => u) (group.map fun _ => g)
    putLine (match isDone, before with
      | false, none => "failed to change " ++ what ++ " of " ++ quotedAlways path ++ " to " ++ now
      | false, some b =>
        "failed to change " ++ what ++ " of " ++ quotedAlways path ++ " from " ++ b ++ " to " ++ now
      | true, b =>
        if user.isNone && group.isNone then
          "ownership of " ++ quotedAlways path ++ " retained"
        else if isChanged then
          "changed " ++ what ++ " of " ++ quotedAlways path ++ " from " ++ b.getD "" ++ " to " ++ now
        else what ++ " of " ++ quotedAlways path ++ " retained as " ++ b.getD "")

def changeOwners (o : Owning) : Nat → Bool → String → Tool Unit
  | 0, _, _ => return
  | depth + 1, isOperand, path => do
    let v ← look
    let isLink := (v.status path false).toOption.any (·.kind == .link)
    let enters := o.isRecursive && v.isDirectory path &&
      (!isLink || o.walks || isOperand && o.walksOperands)
    if enters then
      (Permissions.namesIn v path).forM fun name => changeOwners o depth false (join path name)
    let follow := o.follow || isLink && enters
    match v.status path follow with
    | .error e =>
      unless o.isQuiet do
        complain ((if isLink then "cannot dereference " else "cannot access ") ++
          quotedAlways path ++ ": " ++ e.message)
      note 1
      o.tell path false false none
    | .ok s =>
      let fits (wanted : Option Nat) (n : Nat) : Bool := wanted.all (· == n)
      let user := o.wanted.user.getD s.user
      let group := o.wanted.group.getD s.group
      let goes := fits o.required.user s.user && fits o.required.group s.group
      let isChanged := goes && (user ≠ s.user || group ≠ s.group)
      if goes then
        let _ ← change (.setOwner path user group follow)
      o.tell path true isChanged
        (some (Accounts.userText v s.user, Accounts.groupText v s.group))

/-- Reads a word for owners; the tool ends if it cannot be read. -/
def owners (text : String) : Tool Accounts.Owners := do
  match Accounts.read (← look) text with
  | .ok (o, isOld) =>
    if isOld then complain ("warning: '.' should be ':': " ++ quotedAlways text)
    return o
  | .error e => fail 1 (e ++ ": " ++ quotedAlways text)

def changeOwner (isGroup : Bool) (words : List String) : Tool Unit := do
  let g ← given ([opt 'R' "recursive", opt 'v' "verbose", opt 'c' "changes", silence,
    opt 'h' "no-dereference", long "dereference", opt 'H' "", opt 'L' "", opt 'P' "",
    long "preserve-root", long "no-preserve-root", long "reference" .argument] ++
    (if isGroup then [] else [long "from" .argument])) words
  let required ← match g.argument? "from" with
    | some text => owners text
    | none => pure {}
  let isRecursive := g.has "R"
  let way := if isRecursive then (g.last? ["H", "L", "P"]).getD "P" else "P"
  if isRecursive && way == "P" && g.last? ["h", "dereference"] == some "dereference" then
    fail 1 "-R --dereference requires either -H or -L"
  if isRecursive && way != "P" && g.last? ["h", "dereference"] == some "h" then
    fail 1 "-R -h requires -P"
  let (wanted, paths) ← match g.argument? "reference" with
    | some path =>
      demand g 1
      let v ← look
      match v.status path true with
      | .ok s =>
        pure ({ user := if isGroup then none else some s.user
                userText := if isGroup then none else some (Accounts.userText v s.user)
                group := some s.group
                groupText := some (Accounts.groupText v s.group) }, g.operands)
      | .error e =>
        fail 1 ("failed to get attributes of " ++ quotedAlways path ++ ": " ++ e.message)
    | none =>
      demand g 2
      let text := g.operands.headD ""
      let v ← look
      let wanted ← if isGroup then
          if text == "" then pure {}
          else
            match Accounts.group? v text with
            | some n => pure { group := some n, groupText := some text }
            | none => fail 1 ("invalid group: " ++ quotedAlways text)
        else owners text
      pure (wanted, g.operands.drop 1)
  let o : Owning := {
    wanted, required, telling := Telling.of g, isQuiet := g.has "f", isRecursive
    follow := if isRecursive then way == "L" else !g.has "h"
    walks := way == "L", walksOperands := way == "H" }
  paths.forM fun path => do
    unless ← isKept g path do changeOwners o 4096 true path

def catalogue : List (String × (List String → Tool Unit)) := [
  ("chmod", chmod), ("chown", changeOwner false), ("chgrp", changeOwner true)]

end Remedy.Tool.Permissions
