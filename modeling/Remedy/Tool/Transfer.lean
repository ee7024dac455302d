import Remedy.Tool.Accounts
import Remedy.Tool.Copying
import Remedy.Tool.Entries

namespace Remedy.Tool.Transfer

open Unix Files Place Copying

inductive Goal where
  | into (directory : String) (sources : List String)
  | onto (source target : String)

def directoryOption (g : Given) : Tool (Option String) := do
  match g.argumentsOf "t" with
  | [] => return none
  | [directory] =>
    if g.has "T" then
      fail 1 "cannot combine --target-directory (-t) and --no-target-directory (-T)"
    else return some directory
  | _ => fail 1 "multiple target directories specified"

/-- Finds out where the operands go; a directory option that cannot be used is refused in the words
given. -/
def goal (g : Given) (directory : Option String) (refusal : String) (mayMiss : Bool) :
    Tool Goal := do
  let v ← look
  match directory, g.operands with
  | some _, [] | none, [] => refuse 1 "missing file operand"
  | some directory, sources =>
    match notDirectory? v directory with
    | none => return .into directory sources
    | some e =>
      if mayMiss && e = .missing then return .into directory sources
      else fail 1 (refusal ++ quotedAlways directory ++ ": " ++ e.message)
  | none, [source] => refuse 1 ("missing destination file operand after " ++ quotedAlways source)
  | none, operands =>
    let last := operands.getLastD ""
    if g.has "T" then
      match operands[2]? with
      | some w => refuse 1 ("extra operand " ++ quotedAlways w)
      | none => return .onto (operands.headD "") last
    else
      match notDirectory? v last with
      | none => return .into last operands.dropLast
      | some e =>
        if operands.length > 2 then fail 1 ("target " ++ quotedAlways last ++ ": " ++ e.message)
        else return .onto (operands.headD "") last

def within (directory source : String) : String :=
  let name := baseName source
  join directory (if name == ".." then "." else name)

/-- The operands, without the slashes at their ends if that is asked for. -/
def stripped (g : Given) (path : String) : String :=
  if g.has "strip-trailing-slashes" then withoutSlashes path else path

/-- Does something with all operands, one after the other; the status tells whether it went well. -/
def run (watchesSources : Bool) (steps : List (CopyM Bool)) : Tool Unit := do
  let isMany := steps.length > 1
  let journal : Journal :=
    { watchesSources := isMany && watchesSources, watchesTargets := isMany }
  let (results, _) ← (steps.mapM id).run journal
  unless results.all id do note 1

def attributes : List (List String) :=
  [["mode"], ["timestamps"], ["ownership"], ["links"], ["context"], ["xattr"], ["all"]]

def switch (context : String) (isOn : Bool) (p : Plan) (words : String) : Tool Plan :=
  (words.splitOn ",").foldlM (fun p word => do
    match ← choose context attributes word with
    | "mode" => return { p with keepsMode := isOn, dropsMode := !isOn }
    | "timestamps" => return { p with keepsTime := isOn }
    | "ownership" => return { p with keepsOwner := isOn }
    | "links" => return { p with keepsLinks := isOn }
    | "context" =>
      if isOn then
        fail 1 "cannot preserve security context without an SELinux-enabled kernel"
      else return p
    | "all" =>
      return { p with
        keepsMode := isOn, keepsTime := isOn, keepsOwner := isOn, keepsLinks := isOn
        dropsMode := !isOn }
    | _ => return p) p

def updating (p : Plan) (argument : String) : Tool Plan := do
  if argument == "" then return { p with onlyNewer := true }
  else if p.overwriting == .refusing then return p
  else
    match ← choose "--update" [["all"], ["none"], ["older"]] argument with
    | "all" => return { p with onlyNewer := false, overwriting := .freely }
    | "none" => return { p with onlyNewer := false, overwriting := .skipping }
    | _ => return { p with onlyNewer := true, overwriting := .freely }

def ignoreContext (argument : String) : Tool Unit := do
  if argument != "" then
    complain "warning: ignoring --context; it requires an SELinux-enabled kernel"

/-- A plan with the links that are followed, as far as an option tells. -/
structure Copies where
  plan : Plan := {}
  following : Option Following := none
  readsSpecial : Bool := false
  sparse : Bool := false

def Copies.take (c : Copies) (key argument : String) : Tool Copies := do
  let p := c.plan
  let kept := { p with keepsMode := true, keepsTime := true, keepsOwner := true }
  match key with
  | "a" =>
    return { c with
      plan := { kept with isRecursive := true, keepsLinks := true }, following := some .never }
  | "attributes-only" => return { c with plan := { p with takesContent := false } }
  | "copy-contents" => return { c with readsSpecial := true }
  | "d" => return { c with plan := { p with keepsLinks := true }, following := some .never }
  | "f" => return { c with plan := { p with removesIfShut := true } }
  | "H" => return { c with following := some .operands }
  | "i" => return { c with plan := { p with overwriting := .asking } }
  | "l" => return { c with plan := { p with hardLinks := true } }
  | "L" => return { c with following := some .always }
  | "n" =>
    complain ("warning: behavior of -n is non-portable and may change in future; " ++
      "use --update=none instead")
    return { c with plan := { p with overwriting := .skipping } }
  | "P" => return { c with following := some .never }
  | "no-preserve" => return { c with plan := ← switch "--no-preserve" false p argument }
  | "p" => return { c with plan := kept }
  | "preserve" =>
    if argument == "" then return { c with plan := kept }
    else return { c with plan := ← switch "--preserve" true p argument }
  | "r" | "R" => return { c with plan := { p with isRecursive := true } }
  | "remove-destination" => return { c with plan := { p with removesFirst := true } }
  | "reflink" =>
    let choice ← if argument == "" then pure "always"
      else choose "--reflink" [["auto"], ["always"], ["never"]] argument
    return { c with plan := { p with mustShare := choice == "always" } }
  | "sparse" =>
    let choice ← choose "--sparse" [["never"], ["auto"], ["always"]] argument
    return { c with sparse := choice != "auto" }
  | "s" => return { c with plan := { p with softLinks := true } }
  | "u" => return { c with plan := ← updating p argument }
  | "update" => return { c with plan := ← updating p argument }
  | "v" => return { c with plan := { p with tells := true } }
  | "debug" => return { c with plan := { p with tells := true, explains := true } }
  | "context" =>
    ignoreContext argument
    return c
  | _ => return c

def makeParents (p : Plan) (directory source : String) : CopyM Bool := do
  let stages := (Entries.stages (withoutSlashes source)).dropLast
  go stages
where
  go : List String → CopyM Bool
    | [] => return true
    | stage :: rest => do
      let v ← look
      let target := join directory stage
      match v.status target true with
      | .ok t =>
        if t.kind == .directory then go rest
        else failure (quotedAlways target ++ " exists but is not a directory")
      | .error _ =>
        match v.status stage true, notDirectory? v stage with
        | .ok s, none =>
          let bits := s.mode &&& 1023 &&& (1023 - (v.umask &&& 511))
          match ← change (.makeDirectory target (bits ||| 448)) with
          | .error e =>
            failure ("cannot make directory " ++ quotedAlways target ++ ": " ++ e.message)
          | .ok _ =>
            if p.tells then putLine (stage ++ " -> " ++ target)
            let result ← go rest
            if p.keepsOwner then
              let _ ← change (.setOwner target s.user s.group true)
            if p.keepsMode then
              let _ ← change (.setMode target s.mode)
            if p.keepsTime then
              let _ ← change (.setTime target s.modified true)
            return result
        | _, e =>
          failure ("failed to get attributes of " ++ quotedAlways stage ++ ": " ++
            (e.getD .notDirectory).message)

def depth : Nat := 4096

def copyOperand (p : Plan) (newness : Newness) (source target : String) : CopyM Bool := do
  return (← copyAt depth p { newness, top := (source, target) } source target).ok

def cp (words : List String) : Tool Unit := do
  let g ← given ([opt 'r' "recursive", opt 'R' "", opt 'a' "archive", opt 'p' "",
    opt 'f' "force", opt 'i' "interactive", opt 'n' "no-clobber", opt 'v' "verbose",
    opt 't' "target-directory" .argument, opt 'T' "no-target-directory", opt 'u' "",
    long "update" .maybe, opt 'L' "dereference", opt 'P' "no-dereference", opt 'H' "", opt 'd' "",
    opt 'l' "link", opt 's' "symbolic-link", opt 'x' "one-file-system",
    long "parents", long "path", long "remove-destination", long "preserve" .maybe,
    long "no-preserve" .argument, long "strip-trailing-slashes", long "attributes-only",
    long "copy-contents", long "debug", opt 'Z' "", long "context" .maybe,
    long "reflink" .maybe, long "sparse" .argument] ++ Backup.options) words
  let c ← g.options.foldlM (fun c (key, argument) => Copies.take c key argument) ({} : Copies)
  let directory ← directoryOption g
  let p := c.plan
  if p.hardLinks && p.softLinks then refuse 1 "cannot make both hard and symbolic links"
  let backups ← Backups.ofOptions g
  if backups.kind.isSome && p.overwriting == .refusing then
    refuse 1 "options --backup and --no-clobber are mutually exclusive"
  if p.mustShare && c.sparse then refuse 1 "--reflink can be used only with --sparse=auto"
  let usual := if p.isRecursive && !p.hardLinks then Following.never else .always
  let p := { p with
    backups
    following := c.following.getD usual
    readsAll := !p.isRecursive || c.readsSpecial }
  let withParents := g.has "parents" || g.has "path"
  match ← goal g directory "target directory " false with
  | .into directory sources =>
    run true <| sources.map fun source => do
      let source := stripped g source
      if withParents then
        if ← makeParents p directory source then
          copyOperand p .unknown source (join directory (withoutSlashes source))
        else return false
      else copyOperand p .unknown source (within directory source)
  | .onto source target =>
    if withParents then refuse 1 "with --parents, the destination must be a directory"
    let v ← look
    let status := v.status target true
    let newness : Newness := match status with
      | .error .missing => if g.has "T" then .unknown else .likely
      | _ => .unknown
    let isRegular := status.toOption.any (·.kind == .regular)
    if p.removesIfShut && backups.kind.isSome && source == target && isRegular then
      run true [copyOperand { p with backups := {} } .unknown source (backups.nameFor v target)]
    else run true [copyOperand p newness source target]

def mv (words : List String) : Tool Unit := do
  let g ← given ([opt 'f' "force", opt 'i' "interactive", opt 'n' "no-clobber", opt 'v' "verbose",
    opt 't' "target-directory" .argument, opt 'T' "no-target-directory", opt 'u' "",
    long "update" .maybe, long "strip-trailing-slashes", long "no-copy", long "debug",
    opt 'Z' "context"] ++ Backup.options) words
  let p ← g.options.foldlM (fun (p : Plan) (key, argument) => do
    match key with
    | "f" => return { p with overwriting := .freely }
    | "i" => return { p with overwriting := .asking }
    | "n" => return { p with overwriting := .refusing }
    | "u" | "update" => updating p argument
    | "v" => return { p with tells := true }
    | "debug" => return { p with tells := true, explains := true }
    | _ => return p) { isMove := true, isRecursive := true, following := .never }
  let directory ← directoryOption g
  let p := { p with onlyNewer := p.onlyNewer && p.overwriting != Overwriting.refusing }
  if g.operands.isEmpty then refuse 1 "missing file operand"
  -- two operands are tried at once, before it is asked what the second one is
  let first ← match directory, g.operands with
    | none, [source, target] =>
      if g.has "T" then pure none else some <$> renameToNew (stripped g source) target
    | _, _ => pure none
  let goal ← match first, g.operands with
    | some (.ok _), [source, target] => pure (.onto source target)
    | _, _ => goal g directory "target directory " false
  let hasBackups := g.has "b" || g.has "backup" || g.has "S"
  if hasBackups && [Overwriting.refusing, .skipping].contains p.overwriting then
    refuse 1 "options --backup and --no-clobber are mutually exclusive"
  let p := { p with backups := ← Backups.ofOptions g }
  match goal with
  | .into directory sources =>
    run false <| sources.zipIdx.map fun (source, i) =>
      let source := stripped g source
      moveTo p (i + 1 = sources.length) none source (join directory (baseName source))
  | .onto source target => run false [moveTo p true first (stripped g source) target]

def isInstalled (v : View) (mode user group : Nat) (source target : String) : Bool :=
  match v.status source true, v.status target false with
  | .ok s, .ok t =>
    s.kind == .regular && t.kind == .regular && t.mode == mode && s.size == t.size &&
      t.user == user && t.group == group &&
      (v.content source).toOption == (v.content target).toOption
  | _, _ => false

def install (words : List String) : Tool Unit := do
  let g ← given ([opt 'd' "directory", opt 'm' "mode" .argument, opt 'D' "", opt 'v' "verbose",
    opt 't' "target-directory" .argument, opt 'T' "no-target-directory", opt 'c' "",
    opt 'o' "owner" .argument, opt 'g' "group" .argument, opt 'p' "preserve-timestamps",
    opt 's' "strip", opt 'C' "compare", opt 'Z' "", long "context" .maybe, long "debug",
    long "preserve-context", long "strip-program" .argument] ++ Backup.options) words
  let isDirectory := g.has "d"
  g.options.forM fun (key, argument) => do
    if key == "context" then ignoreContext argument
    if key == "preserve-context" then
      complain "WARNING: ignoring --preserve-context; this kernel is not SELinux-enabled"
  if (g.argumentsOf "t").length > 1 then fail 1 "multiple target directories specified"
  if isDirectory && g.has "s" then
    fail 1 "the strip option may not be used when installing a directory"
  if isDirectory && g.has "t" then
    fail 1 "target directory not allowed when installing a directory"
  let backups ← Backups.ofOptions g
  if g.operands.isEmpty then refuse 1 "missing file operand"
  if isDirectory then
    let mode := (← Entries.modeArgument g 0 true "").getD 493
    checkRest g
    let (user, group) ← owners g
    g.operands.forM fun path => do
      let isThere := (← look).isDirectory path
      Entries.makeDirectory path (some mode) true fun made => do
        if g.has "v" || g.has "debug" then
          putLine ("install: creating directory " ++ quotedAlways made)
      let _ ← change (.setOwner path user group true)
      if isThere then
        let _ ← change (.setMode path mode)
  else
    if g.operands.length = 1 && !g.has "t" then
      refuse 1 ("missing destination file operand after " ++ quotedAlways (g.operands.headD ""))
    let directory ← directoryOption g
    let goal ← goal g directory "failed to access " (g.has "D")
    let mode := (← Entries.modeArgument g 0 false "").getD 493
    checkRest g
    let (user, group) ← owners g
    let p : Plan := {
      isInstallation := true
      removesFirst := true
      keepsTime := g.has "p"
      mode := some 384
      backups
      tells := g.has "v" || g.has "debug"
      explains := g.has "debug" }
    let single (source target : String) : CopyM Bool := do
      if g.has "C" && isInstalled (← look) mode user group source target then return true
      else
        let isDone ← copyOperand p .unknown source target
        if isDone then
          let _ ← change (.setOwner target user group true)
          let _ ← change (.setMode target mode)
        return isDone
    match goal with
    | .into directory sources =>
      if g.has "D" && g.has "t" then parents g directory
      run false <| sources.map fun source => single source (within directory source)
    | .onto source target =>
      if g.has "D" then
        let above := parent target
        if above != "." then parents g above
      run false [single source target]
where
  checkRest (g : Given) : Tool Unit := do
    if g.has "strip-program" && !g.has "s" then
      complain "WARNING: ignoring --strip-program option as -s option was not specified"
    if g.has "C" && g.has "p" then
      refuse 1 "options --compare (-C) and --preserve-timestamps are mutually exclusive"
    if g.has "C" && g.has "s" then
      refuse 1 "options --compare (-C) and --strip are mutually exclusive"
  owners (g : Given) : Tool (Nat × Nat) := do
    let v ← look
    let user ← match g.argument? "o" with
      | none | some "" => pure 0
      | some name =>
        match Accounts.user? v name with
        | some n => pure n
        | none => fail 1 ("invalid user " ++ quotedAlways name)
    let group ← match g.argument? "g" with
      | none | some "" => pure 0
      | some name =>
        match Accounts.group? v name with
        | some n => pure n
        | none => fail 1 ("invalid group " ++ quotedAlways name)
    return (user, group)
  parents (g : Given) (path : String) : Tool Unit :=
    Entries.makeDirectory path (some 493) true fun made => do
      if g.has "v" || g.has "debug" then
        putLine ("install: creating directory " ++ quotedAlways made)

def catalogue : List (String × (List String → Tool Unit)) := [
  ("cp", cp), ("mv", mv), ("install", install)]

end Remedy.Tool.Transfer
