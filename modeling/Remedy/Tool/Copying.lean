import Remedy.Tool.Backup
import Remedy.Tool.Place

namespace Remedy.Tool.Copying

open Unix Files Place

inductive Following where
  | always
  | operands
  | never
deriving DecidableEq, Repr

inductive Overwriting where
  | freely
  | asking
  | refusing
  | skipping
deriving DecidableEq, Repr

structure Plan where
  isMove : Bool := false
  isInstallation : Bool := false
  isRecursive : Bool := false
  following : Following := .always
  overwriting : Overwriting := .freely
  onlyNewer : Bool := false
  removesFirst : Bool := false
  removesIfShut : Bool := false
  hardLinks : Bool := false
  softLinks : Bool := false
  keepsMode : Bool := false
  keepsTime : Bool := false
  keepsOwner : Bool := false
  keepsLinks : Bool := false
  dropsMode : Bool := false
  mode : Option Nat := none
  takesContent : Bool := true
  mustShare : Bool := false
  readsAll : Bool := true
  backups : Backups := {}
  tells : Bool := false
  explains : Bool := false

structure Journal where
  watchesSources : Bool := false
  watchesTargets : Bool := false
  sources : List (List Name) := []
  targets : List (List Name) := []
  copies : List (Identity × String) := []

abbrev CopyM := StateT Journal Tool

def failure (message : String) : CopyM Bool := do
  complain message
  return false

def tellPair (source target : String) (backup : Option String) : String :=
  quotedAlways source ++ " -> " ++ quotedAlways target ++
    (backup.elim "" fun b => " (backup: " ++ quotedAlways b ++ ")")

inductive Clash where
  | harmless
  | same
  | settled (ok : Bool)
deriving DecidableEq, Repr

/-- Whether a source and a target are the same file in a way that hinders the plan. The statuses
are those that the plan looks at; `isSame` tells whether they are of one file. -/
def clash (p : Plan) (v : View) (source target : String) (s t : Status) (isSame : Bool) : Clash :=
  let isEntry := isSameEntry v source target
  let hasBackup := p.backups.kind.isSome
  if isSame && p.hardLinks then .settled true
  else if p.following == .never then
    if s.kind == .link && t.kind == .link then
      if !isEntry && hasBackup then .harmless
      else if !isEntry && isSame then .settled (!p.isMove)
      else if isEntry then .same else .harmless
    else ofEntries isEntry hasBackup s t isSame
  else if !isSame then .harmless
  else
    match v.status source false, v.status target false with
    | .ok s, .ok t =>
      if s.kind == .link && t.kind == .link && p.removesFirst then .harmless
      else
        ofEntries isEntry hasBackup s t (identity? v source false == identity? v target false)
    | _, _ => .harmless
where
  ofEntries (isEntry hasBackup : Bool) (s t : Status) (isSame : Bool) : Clash :=
    let isLink (s : Status) : Bool := s.kind == .link
    if hasBackup then
      if isSame then if isEntry then .same else .harmless
      else if !p.isMove && p.following != .never && isLink s && !isLink t then .same else .harmless
    else if (p.isMove || p.removesFirst) && isLink t then .harmless
    else if (p.isMove || p.removesFirst) && isSame && t.links > 1 && !isEntry then
      if p.isMove then .same else .harmless
    else if !isLink s && !isLink t && !isSame then .harmless
    else if !isLink s && !isLink t && p.hardLinks then .settled true
    else if p.isMove && isLink s && t.links > 1 then
      match v.location source true with
      | .ok l => if isSameEntry v (View.pathOf l) target then .same else .harmless
      | .error _ => .same
    else if p.softLinks && isLink t then .harmless
    else if p.following == .never then
      match identity? v source true, identity? v target true with
      | some a, some b =>
        if a ≠ b then .harmless
        else if p.hardLinks then if isLink t then .harmless else .settled true
        else .same
      | _, _ => .harmless
    else .same

inductive Meeting where
  | done (ok : Bool)
  | ready (isNew : Bool) (saved : Option String)

/-- Whether a source is the very file that the backup of a target would replace. -/
def isBackupOf (v : View) (b : Backups) (source target : String) (follow : Bool) : Bool :=
  let bare := withoutSlashes target
  baseName source == baseName bare ++ b.suffix &&
    (identity? v (bare ++ b.suffix) true).isSome &&
    identity? v source follow == identity? v (bare ++ b.suffix) true

def save (p : Plan) (source target : String) (follow : Bool) (t : Status) :
    CopyM (Except Unit (Option String)) := do
  let v ← look
  let name := baseName source
  if p.backups.kind.isNone || name == "." || name == ".." || (!p.isMove && t.kind == .directory)
  then return .ok none
  else if p.backups.kind != some .numbered && isBackupOf v p.backups source target follow then
    complain ("backing up " ++ quotedAlways target ++ " might destroy source;  " ++
      quotedAlways source ++ " not " ++ (if p.isMove then "moved" else "copied"))
    return .error ()
  else
    let saved := p.backups.nameFor v target
    match ← change (.rename target saved) with
    | .ok _ => return .ok (some saved)
    | .error .missing => return .ok none
    | .error e =>
      complain ("cannot backup " ++ quotedAlways target ++ ": " ++ e.message)
      return .error ()

def meet (p : Plan) (isOperand : Bool) (source target : String) (s t : Status) (isSame : Bool) :
    CopyM Meeting := do
  let v ← look
  let stays := p.overwriting == .refusing || p.overwriting == .skipping
  let found := if stays then .harmless else clash p v source target s t isSame
  if found == .same then
    return .done (← failure
      (quotedAlways source ++ " and " ++ quotedAlways target ++ " are the same file"))
  let isLate := p.onlyNewer && s.kind != .directory && t.modified ≥ s.modified
  let skipped : Option Bool ←
    if isLate then pure (some true)
    else if !p.isMove && s.kind == .directory then pure none
    else
      match p.overwriting with
      | .freely => pure none
      | .refusing => pure (some false)
      | .skipping => pure (some true)
      | .asking =>
        if ← confirm ("overwrite " ++ quotedAlways target) then pure none else pure (some false)
  match skipped, found with
  | some ok, _ =>
    if p.overwriting == .refusing then complain ("not replacing " ++ quotedAlways target)
    else if p.explains then putLine ("skipped " ++ quotedAlways target)
    return .done ok
  | none, .settled ok => return .done ok
  | none, _ =>
    let isDirectory (s : Status) : Bool := s.kind == .directory
    let savesMoved := p.isMove && p.backups.kind.isSome
    if !isDirectory t && isDirectory s && !savesMoved then
      return .done (← failure ("cannot overwrite non-directory " ++ quotedAlways target ++
        " with directory " ++ quotedAlways source))
    let place := (v.location target false).toOption.getD []
    if !isDirectory t && isOperand && p.backups.kind != some .numbered &&
        (← get).watchesTargets && (← get).targets.contains place then
      return .done (← failure ("will not overwrite just-created " ++ quotedAlways target ++
        " with " ++ quotedAlways source))
    if !isDirectory s && isDirectory t && !savesMoved then
      return .done (← failure ("cannot overwrite directory " ++ quotedAlways target ++
        " with non-directory"))
    match ← save p source target (p.following != .never) t with
    | .error _ => return .done false
    | .ok (some saved) => return .ready true (some saved)
    | .ok none =>
      let isSaved := p.backups.kind.isSome && (p.isMove || !isDirectory t) &&
        !([".", ".."].contains (baseName source))
      if isSaved then return .ready true none
      else if !isDirectory t && !p.isMove &&
          (p.removesFirst || p.takesContent &&
            (p.keepsLinks && t.links > 1 || p.following == .never && s.kind != .regular)) then
        match ← change (.removeFile target) with
        | .error e =>
          if e ≠ .missing then
            return .done (← failure ("cannot remove " ++ quotedAlways target ++ ": " ++ e.message))
        | .ok _ => pure ()
        if p.tells then putLine ("removed " ++ quotedAlways target)
        return .ready true none
      else return .ready false none

/-- Pours one descriptor into another one; tells on which side it failed. -/
def pour (input output : Nat) : Act (Option (Bool × Errno)) :=
  Act.repeatUntil (fun (_ : Unit) => do
    match ← Act.ask (.read input Act.block) with
    | .error e => return .inr (some (true, e))
    | .ok data =>
      if data.isEmpty then return .inr none
      else
        match ← Act.ask (.write output data) with
        | .ok _ => return .inl ()
        | .error e => return .inr (some (false, e))) (fun _ => none) Act.limit ()

def openTarget (p : Plan) (target : String) (isNew : Bool) (mode : Nat) :
    CopyM (Except String (Nat × Bool)) := do
  let cannot (e : Errno) : String :=
    "cannot create regular file " ++ quotedAlways target ++ ": " ++ e.message
  let create : CopyM (Except String (Nat × Bool)) := do
    match ← sys (.open target { writes := true, create := true, exclusive := true, mode }) with
    | .ok fd => return .ok (fd, true)
    | .error .exists =>
      if ((← look).status target false).toOption.any (·.kind == .link) then
        return .error ("not writing through dangling symlink " ++ quotedAlways target)
      else return .error (cannot .exists)
    | .error e =>
      return .error (cannot (if e = .isDirectory && target.endsWith "/" then .notDirectory else e))
  if isNew then create
  else
    match ← sys (.open target { writes := true, truncate := p.takesContent }) with
    | .ok fd => return .ok (fd, false)
    | .error .missing => create
    | .error e =>
      if p.removesIfShut then
        match ← change (.removeFile target) with
        | .ok _ =>
          if p.tells then putLine ("removed " ++ quotedAlways target)
          create
        | .error .missing => create
        | .error e => return .error ("cannot remove " ++ quotedAlways target ++ ": " ++ e.message)
      else return .error (cannot e)

def dress (p : Plan) (s : Status) (target : String) (isNew : Bool) : Tool Unit := do
  let umask := (← look).umask
  if p.keepsTime then
    let _ ← change (.setTime target s.modified true)
  if p.keepsOwner then
    let _ ← change (.setOwner target s.user s.group true)
  let isDirectory := s.kind == .directory
  let bits := (if isDirectory then 511 else 438) &&& (511 - (umask &&& 511))
  if p.keepsMode then
    let _ ← change (.setMode target s.mode)
  else
    match p.mode with
    | some mode =>
      let _ ← change (.setMode target mode)
    | none =>
      if p.dropsMode && isNew then
        let _ ← change (.setMode target bits)

def copyContent (p : Plan) (s : Status) (source target : String) (isNew : Bool) :
    CopyM Bool := do
  match ← sys (.open source .input) with
  | .error e => failure ("cannot open " ++ quotedAlways source ++ " for reading: " ++ e.message)
  | .ok input =>
    match ← openTarget p target isNew ((p.mode.getD s.mode) &&& 511) with
    | .error message =>
      let _ ← sys (.close input)
      failure message
    | .ok (output, isNew) =>
      let result ← if p.takesContent && !p.mustShare then act (pour input output)
        else pure none
      let _ ← sys (.close input)
      let _ ← sys (.close output)
      match result with
      | some (true, e) => failure ("error reading " ++ quotedAlways source ++ ": " ++ e.message)
      | some (false, e) => failure ("error writing " ++ quotedAlways target ++ ": " ++ e.message)
      | none =>
        if p.mustShare && p.takesContent then
          if isNew then
            let _ ← change (.removeFile target)
          failure ("failed to clone " ++ quotedAlways target ++ " from " ++ quotedAlways source ++
            ": Operation not supported")
        else
          dress p s target isNew
          if p.explains && p.takesContent then
            putLine ("copy offload: " ++ (if s.size = 0 then "unknown" else "yes") ++
              ", reflink: unsupported, sparse detection: no")
          return true

def placeLink (text target : String) (replaces : Bool) : Tool (Except Errno Unit) := do
  match ← change (.symbolicLink text target) with
  | .error .exists =>
    if replaces then
      let _ ← change (.removeFile target)
      change (.symbolicLink text target)
    else return .error .exists
  | r => return r

/-- Makes another name for a file; tells in `some true` that one was replaced. -/
def placeName (source target : String) (follow replaces : Bool) : Tool (Except Errno Bool) := do
  let v ← look
  let origin := if follow then
      (v.location source true).toOption.elim source View.pathOf else source
  match ← change (.hardLink origin target) with
  | .ok _ => return .ok false
  | .error .exists =>
    if replaces then
      if isSameEntry v origin target then return .ok false
      let _ ← change (.removeFile target)
      return (← change (.hardLink origin target)).map fun _ => true
    else return .error .exists
  | .error e => return .error e

def copyName (source target : String) (follow replaces tells : Bool) : CopyM Bool := do
  match ← placeName source target follow replaces with
  | .ok isReplaced =>
    if isReplaced && tells then putLine ("removed " ++ quotedAlways target)
    return true
  | .error e =>
    failure ("cannot create hard link " ++ quotedAlways target ++ " to " ++ quotedAlways source ++
      ": " ++ e.message)

inductive Newness where
  | unknown
  | likely
  | sure
deriving DecidableEq, Repr

structure Setting where
  isOperand : Bool := true
  newness : Newness := .unknown
  hasMade : Bool := false
  above : List Identity := []
  top : String × String

structure Outcome where
  ok : Bool
  isInItself : Bool := false

/-- The file in whose place a source is known to be copied already; remembers it if it is new. -/
def earlier? (p : Plan) (c : Setting) (s : Status) (identity : Identity) (target : String) :
    CopyM (Option String) := do
  let known := (← get).copies.lookup identity
  let remembers := if p.isRecursive && s.kind == .directory then c.isOperand
    else p.keepsLinks && !p.hardLinks &&
      (s.links > 1 || c.isOperand && p.following != .never)
  let looks := remembers || (p.isRecursive && s.kind == .directory)
  if known.isNone && remembers then
    modify fun j => { j with copies := (identity, target) :: j.copies }
  return if looks then known else none

def forget (identity : Identity) : CopyM Unit :=
  modify fun j => { j with copies := j.copies.filter (·.1 ≠ identity) }

/-- A soft link is made to a source only from the working directory, if its path is relative. -/
def canLink (v : View) (source target : String) : Bool :=
  source.startsWith "/" || parent target == "." ||
    match v.location (parent target) true with
    | .ok l => l == v.cwd
    | .error _ => true

def copyEntries (copy : String → String → CopyM Outcome) (source target : String) :
    List String → CopyM Outcome
  | [] => return { ok := true }
  | name :: rest => do
    let outcome ← copy (join source name) (join target name)
    if outcome.isInItself then return { ok := false, isInItself := true }
    let others ← copyEntries copy source target rest
    return { others with ok := outcome.ok && others.ok }

/-- Copies a directory; `copy` copies what stands under a path in it. -/
def copyDirectory (copy : Plan → Setting → String → String → CopyM Outcome) (p : Plan)
    (c : Setting) (s : Status) (identity : Identity) (source target : String)
    (isNew isThere : Bool) : CopyM Outcome := do
  if c.above.contains identity then
    return { ok := ← failure ("cannot copy cyclic symbolic link " ++ quotedAlways source) }
  let umask := (← look).umask
  let bits := s.mode &&& 1023 &&& (1023 - (umask &&& 511))
  let makes := isNew || !isThere
  let made ← if makes then change (.makeDirectory target (bits ||| 448)) else pure (.ok ())
  match made with
  | .error e =>
    forget identity
    return { ok := ←
      failure ("cannot create directory " ++ quotedAlways target ++ ": " ++ e.message) }
  | .ok _ =>
    if makes then
      unless c.hasMade do
        match identity? (← look) target false with
        | some made => modify fun j => { j with copies := (made, target) :: j.copies }
        | none => pure ()
      if p.tells then putLine (tellPair source target none)
    let names := (((← look).node source true).toOption.elim [] Node.entries).map fun e =>
      Text.Octets.ofList e.1
    let inner := { p with following := if p.following == .operands then .never else p.following }
    let below : Setting := { c with
      isOperand := false
      newness := if makes then .sure else .unknown
      hasMade := c.hasMade || makes
      above := identity :: c.above }
    let outcome ← copyEntries (copy inner below) source target names
    if p.keepsTime then
      let _ ← change (.setTime target s.modified true)
    if p.keepsOwner then
      let _ ← change (.setOwner target s.user s.group true)
    if p.keepsMode then
      let _ ← change (.setMode target s.mode)
    else if p.dropsMode && makes then
      let _ ← change (.setMode target (511 &&& (511 - (umask &&& 511))))
    else if makes && bits &&& 448 ≠ 448 then
      let _ ← change (.setMode target bits)
    return outcome

def copyAt : Nat → Plan → Setting → String → String → CopyM Outcome
  | 0, _, _, _, _ => return { ok := false }
  | depth + 1, p, c, source, target => do
    let v ← look
    let follow := p.following != .never
    match v.status source follow with
    | .error e =>
      return { ok := ← failure ("cannot stat " ++ quotedAlways source ++ ": " ++ e.message) }
    | .ok s =>
      if s.kind == .directory && !p.isRecursive then
        return { ok := ← failure ((if p.isInstallation then "" else "-r not specified; ") ++
          "omitting directory " ++ quotedAlways source) }
      let entry := (v.location source false).toOption.getD []
      if c.isOperand && (← get).watchesSources && s.kind != .directory then
        if p.backups.kind.isNone && (← get).sources.contains entry then
          complain ("warning: source file " ++ quotedAlways source ++ " specified more than once")
          return { ok := true }
        modify fun j => { j with sources := entry :: j.sources }
      let isSpecial := s.kind != .regular
      let looksAtEntry := isSpecial && (!p.readsAll || s.kind == .directory || s.kind == .link) ||
        p.softLinks || p.hardLinks || p.backups.kind.isSome || p.removesFirst
      let identity := (identity? v source follow).getD (.entry entry)
      let present : Except Errno (Option Status) :=
        if c.newness == .sure || c.newness == .likely && !looksAtEntry then .ok none
        else
          match v.status target (!looksAtEntry) with
          | .ok t => .ok (some t)
          | .error .missing => .ok none
          | .error e => .error e
      match present with
      | .error e =>
        return { ok := ← failure ("cannot stat " ++ quotedAlways target ++ ": " ++ e.message) }
      | .ok present =>
        let meeting ← match present with
          | none => pure (.ready true none)
          | some t =>
            meet p c.isOperand source target s t
              (some identity == identity? v target (!looksAtEntry))
        match meeting with
        | .done ok => return { ok }
        | .ready isNew saved =>
          let place := ((← look).location target false).toOption.getD []
          if c.isOperand && (← get).watchesTargets && p.backups.kind.isNone &&
              ((← look).status target false).toOption.any (·.kind == .link) &&
              (← get).targets.contains place then
            return { ok := ← failure ("will not copy " ++ quotedAlways source ++
              " through just-created symlink " ++ quotedAlways target) }
          if p.tells && s.kind != .directory then putLine (tellPair source target saved)
          let known ← earlier? p c s identity target
          let outcome ← match known with
            | some old =>
              if s.kind == .directory then again c source target old
              else do pure { ok := ← copyName old target false true p.tells }
            | none =>
              match s.kind with
              | .directory =>
                copyDirectory (copyAt depth) p c s identity source target isNew
                  (present.any (·.kind == .directory))
              | kind => do pure { ok := ← copyFile p c s kind source target isNew }
          if !outcome.ok && s.kind != .directory then
            if known.isNone then forget identity
            match saved with
            | some old =>
              match ← change (.rename old target) with
              | .ok _ =>
                if p.tells then
                  putLine (quotedAlways old ++ " -> " ++ quotedAlways target ++ " (unbackup)")
              | .error e =>
                complain ("cannot un-backup " ++ quotedAlways target ++ ": " ++ e.message)
            | none => pure ()
          if outcome.ok && c.isOperand && (← get).watchesTargets then
            modify fun j => { j with targets := place :: j.targets }
          return outcome
where
  again (c : Setting) (source target old : String) : CopyM Outcome := do
    let v ← look
    if isSameEntry v source old then
      let _ ← failure ("cannot copy a directory, " ++ quotedAlways c.top.1 ++ ", into itself, " ++
        quotedAlways c.top.2)
      return { ok := false, isInItself := true }
    else if isSameEntry v target old then
      complain ("warning: source directory " ++ quotedAlways c.top.1 ++
        " specified more than once")
      return { ok := true }
    else
      return { ok := ← failure ("will not create hard link " ++ quotedAlways target ++
        " to directory " ++ quotedAlways old) }
  copyFile (p : Plan) (c : Setting) (s : Status) (kind : Kind) (source target : String)
      (isNew : Bool) : CopyM Bool := do
    let v ← look
    if p.softLinks then
      if !canLink v source target then
        failure (quoted target ++
          ": can make relative symbolic links only in current directory")
      else
        match ← placeLink source target p.removesIfShut with
        | .ok _ => return true
        | .error e =>
          failure ("cannot create symbolic link " ++ quotedAlways target ++ " to " ++
            quotedAlways source ++ ": " ++ e.message)
    else if p.hardLinks then
      copyName source target (p.following == .always || c.isOperand && p.following == .operands)
        (p.removesIfShut || p.overwriting == .asking) false
    else if kind == .regular || p.readsAll && kind != .link then
      copyContent p s source target isNew
    else
      match kind with
      | .link =>
        match v.node source false with
        | .ok (.link text) =>
          match ← placeLink (Text.Octets.ofList text) target p.removesIfShut with
          | .ok _ =>
            if p.keepsTime then
              let _ ← change (.setTime target s.modified false)
            return true
          | .error e =>
            failure ("cannot create symbolic link " ++ quotedAlways target ++ ": " ++ e.message)
        | .ok _ | .error _ => failure ("cannot read symbolic link " ++ quotedAlways source)
      | .fifo =>
        match ← change (.makeFifo target (s.mode &&& (511 - (v.umask &&& 511)))) with
        | .ok _ =>
          dress p s target isNew
          return true
        | .error e => failure ("cannot create fifo " ++ quotedAlways target ++ ": " ++ e.message)
      | _ =>
        failure ("cannot create special file " ++ quotedAlways target ++ ": " ++
          Errno.notPermitted.message)

/-- Renames; only what is a directory may have a slash behind its path. -/
def rename (source target : String) : Tool (Except Errno Unit) := do
  let v ← look
  match v.status (withoutSlashes source) false with
  | .error e => return .error e
  | .ok s =>
    if (source.endsWith "/" || target.endsWith "/") && s.kind != .directory then
      return .error .notDirectory
    else change (.rename source target)

def renameToNew (source target : String) : Tool (Except Errno Unit) := do
  let v ← look
  match v.status source false, v.status target false with
  | .error e, _ => return .error e
  | .ok _, .ok _ => return .error .exists
  | .ok _, .error .missing => rename source target
  | .ok _, .error e => return .error e

/-- Moves what stands under a path; `first` is what came of renaming it at once. -/
def moveTo (p : Plan) (isLast : Bool) (first : Option (Except Errno Unit))
    (source target : String) : CopyM Bool := do
  let first ← match first with
    | some r => pure r
    | none => renameToNew source target
  let told (saved : Option String) : CopyM Bool := do
    if p.tells then putLine ("renamed " ++ tellPair source target saved)
    unless isLast do
      let place := ((← look).location (withoutSlashes target) false).toOption.getD []
      modify fun j => { j with targets := place :: j.targets }
    return true
  let stuck (e : Errno) : CopyM Bool :=
    if e = .invalid then
      failure ("cannot move " ++ quotedAlways source ++ " to a subdirectory of itself, " ++
        quotedAlways target)
    else if [Errno.exists, .isDirectory, .notEmpty].contains e then
      failure ("cannot overwrite " ++ quotedAlways target ++ ": " ++ e.message)
    else
      failure ("cannot move " ++ quotedAlways source ++ " to " ++ quotedAlways target ++ ": " ++
        e.message)
  let v ← look
  match first with
  | .ok _ => told none
  | .error e =>
    if e = .exists && p.overwriting == .refusing then
      failure ("not replacing " ++ quotedAlways target)
    else if e = .exists && p.overwriting == .skipping then
      if p.explains then putLine ("skipped " ++ quotedAlways target)
      return true
    else
      match v.status source false with
      | .error e => failure ("cannot stat " ++ quotedAlways source ++ ": " ++ e.message)
      | .ok s =>
        match v.status target false with
        | .error .missing => stuck e
        | .error e => failure ("cannot stat " ++ quotedAlways target ++ ": " ++ e.message)
        | .ok t =>
          match ← meet p true source target s t
              (identity? v source false == identity? v target false) with
          | .done ok => return ok
          | .ready _ saved =>
            match ← rename source target with
            | .ok _ => told saved
            | .error e => stuck e

end Remedy.Tool.Copying
