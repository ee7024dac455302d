import Remedy.Files.Permission
import Remedy.Power
import Remedy.Tool.Basic

namespace Remedy.Tool.Entries

open Unix Files

/-- The mode that an option names, where one with no bits set changes the bits given. -/
def modeArgument (g : Given) (bits : Nat) (isDirectory : Bool) (sign : String) :
    Tool (Option Nat) := do
  match g.argument? "m" with
  | none => return none
  | some text =>
    match Permission.read? text with
    | some m => return some (m.apply isDirectory (← look).umask bits)
    | none => fail 1 ("invalid mode" ++ sign ++ " " ++ quotedAlways text)

def masked (umask bits : Nat) : Nat := bits &&& (511 - (umask &&& 511))

def stages (path : String) : List String :=
  let names := (withoutSlashes path).splitOn "/"
  let all := (List.range names.length).map fun n => "/".intercalate (names.take (n + 1))
  all.filter (· != "")

/-- Makes a directory; the ones on the way to it too, if `deep` says so. -/
def makeDirectory (path : String) (mode : Option Nat) (deep : Bool) (made : String → Tool Unit) :
    Tool Unit := do
  let v ← look
  let cannot (path : String) (e : Errno) : Tool Unit := do
    complain ("cannot create directory " ++ quotedAlways path ++ ": " ++ e.message)
    note 1
  let usual := masked v.umask 511
  if !deep then
    match ← change (.makeDirectory path (mode.getD usual)) with
    | .ok _ => made path
    | .error e => cannot path e
  else
    let rec go : List String → Tool Unit
      | [] => return
      | stage :: rest => do
        let isLast := rest.isEmpty
        let v ← look
        match v.status stage true with
        | .ok s =>
          if s.kind == .directory then go rest
          else cannot stage (if isLast then .exists else .notDirectory)
        | .error _ =>
          let bits := if isLast then mode.getD usual else usual ||| 192
          match ← change (.makeDirectory stage bits) with
          | .ok _ =>
            made stage
            go rest
          | .error e => cannot stage e
    if path == "" then cannot path .missing else go (stages path)

def mkdir (words : List String) : Tool Unit := do
  let g ← given [opt 'm' "mode" .argument, opt 'p' "parents", opt 'v' "verbose", opt 'Z' ""] words
  demand g 1
  let mode ← modeArgument g 511 true ""
  g.operands.forM fun path =>
    makeDirectory path mode (g.has "p") fun made => do
      if g.has "v" then putLine ("mkdir: created directory " ++ quotedAlways made)

def above (path : String) : List String :=
  let names := (withoutSlashes path).splitOn "/"
  ((List.range (names.length - 1)).map fun n => "/".intercalate (names.take (n + 1))).reverse.filter
    (· != "")

def rmdir (words : List String) : Tool Unit := do
  let g ← given [opt 'p' "parents", opt 'v' "verbose", long "ignore-fail-on-non-empty"] words
  demand g 1
  let remove (path : String) (isParent : Bool) : Tool Bool := do
    if g.has "v" then putLine ("rmdir: removing directory, " ++ quotedAlways path)
    match ← change (.removeDirectory path) with
    | .ok _ => return true
    | .error e =>
      if !(e = .notEmpty && g.has "ignore-fail-on-non-empty") then
        let behind := (← look).status path true
        let isLinked := path.endsWith "/" && e = .notDirectory &&
          (behind.toOption.any (·.kind == .directory))
        complain ("failed to remove " ++ (if isParent then "directory " else "") ++
          quotedAlways path ++ ": " ++
          (if isLinked then "Symbolic link not followed" else e.message))
        note 1
      return false
  g.operands.forM fun path => do
    if (← remove path false) && g.has "p" then
      let rec go : List String → Tool Unit
        | [] => return
        | p :: rest => do if ← remove p true then go rest
      go (above path)

def newSize? (text : String) : Option (Nat → Nat) :=
  let (mark, digits) := match text.toList with
    | c :: cs => if "+-<>/%".toList.contains c then (some c, cs) else (none, c :: cs)
    | [] => (none, [])
  (size? (String.ofList digits)).bind fun n =>
    match mark with
    | none => some fun _ => n
    | some '+' => some (· + n)
    | some '-' => some (· - n)
    | some '<' => some (min · n)
    | some '>' => some (max · n)
    | some c =>
      if n = 0 then none
      else if c == '/' then some fun k => k / n * n
      else some fun k => (k + n - 1) / n * n

def truncate (words : List String) : Tool Unit := do
  let g ← given [opt 's' "size" .argument, opt 'c' "no-create", opt 'o' "io-blocks",
    opt 'r' "reference" .argument] words
  let change? ← match g.argument? "s" with
    | none => pure none
    | some text =>
      match newSize? text with
      | some f => pure (some f)
      | none =>
        let cs := text.toList.dropWhile fun c => c == ' ' || ('\t' ≤ c && c ≤ '\r')
        let isMarked := cs.head?.any "<>/%".toList.contains
        fail 1 ((if "/%".toList.any (cs.head? == some ·) && size? (String.ofList (cs.drop 1)) == some 0
          then "division by zero"
          else "Invalid number: " ++ quotedAlways (String.ofList (if isMarked then cs.drop 1 else cs))))
  let isRelative := (g.argument? "s").any fun text =>
    text.toList.head?.any "+-<>/%".toList.contains
  if change?.isNone && !g.has "r" then
    refuse 1 "you must specify either '--size' or '--reference'"
  if g.has "r" && change?.isSome && !isRelative then
    refuse 1 "you must specify a relative '--size' with '--reference'"
  if g.has "o" && change?.isNone then refuse 1 "'--io-blocks' was specified but '--size' was not"
  demand g 1 1 "file operand"
  let base ← match g.argument? "r" with
    | none => pure none
    | some path =>
      match ← status path true with
      | .ok s => pure (some s.size)
      | .error e => fail 1 ("cannot stat " ++ quotedAlways path ++ ": " ++ e.message)
  g.operands.forM fun path => do
    let v ← look
    if g.has "c" && !v.exists? path then return
    match ← sys (.open path { writes := true, create := true }) with
    | .error e =>
      complain ("cannot open " ++ quotedAlways path ++ " for writing: " ++ e.message)
      note 1
    | .ok fd =>
      let _ ← sys (.close fd)
      let own := ((← look).status path true).toOption.elim 0 (·.size)
      let size := match change? with
        | some f => if g.has "o" then 4096 * f 0 else f (base.getD own)
        | none => base.getD 0
      let _ ← change (.resize path size)

def mkfifo (words : List String) : Tool Unit := do
  let g ← given [opt 'm' "mode" .argument, opt 'Z' ""] words
  demand g 1
  let mode ← match g.argument? "m" with
    | none => pure none
    | some text =>
      match Permission.read? text with
      | some m => pure (some (m.apply false (← look).umask 438))
      | none => fail 1 "invalid mode"
  let usual := masked (← look).umask 438
  g.operands.forM fun path => do
    match ← change (.makeFifo path (mode.getD usual)) with
    | .ok _ => pure ()
    | .error e =>
      complain ("cannot create fifo " ++ quotedAlways path ++ ": " ++ e.message)
      note 1

def randomName (length seed : Nat) : String :=
  let alphabet := "ABCDEFGHIJKLMNOPQRSTUVWXYZabcdefghijklmnopqrstuvwxyz0123456789".toList.toArray
  let rec go : Nat → Nat → List Char
    | 0, _ => []
    | n + 1, x =>
      let x := (x * 6364136223846793005 + 1442695040888963407) % twoTo 64
      alphabet.getD (x / twoTo 33 % 62) 'A' :: go n x
  String.ofList (go length seed)

def mktemp (words : List String) : Tool Unit := do
  let g ← given [opt 'd' "directory", opt 'u' "dry-run", opt 'q' "quiet",
    opt 'p' "tmpdir" .maybe, opt 't' "", long "suffix" .argument]
    (words.flatMap fun w => if w == "-p" then ["-p"] else [w])
  -- the letter takes its argument from the next word
  let (directory, operands) := match g.argument? "p", g.operands with
    | some "", d :: rest => if words.contains "-p" then (some d, rest) else (some "", d :: rest)
    | d, operands => (d, operands)
  if operands.length > 1 then refuse 1 "too many templates"
  let template := operands.headD "tmp.XXXXXXXXXX"
  let environment := (← get).environment
  let usual := match environment.lookup "TMPDIR" with
    | some "" | none => "/tmp"
    | some d => d
  let suffix := (g.argument? "suffix").getD ""
  let cs := template.toList.reverse
  let tail := if g.has "suffix" then [] else cs.takeWhile (· ≠ 'X')
  let marks := (cs.drop tail.length).takeWhile (· == 'X')
  let stem := String.ofList ((cs.drop (tail.length + marks.length)).reverse)
  let suffix := if g.has "suffix" then suffix else String.ofList tail.reverse
  let complainUnlessQuiet (message : String) : Tool Unit := do
    unless g.has "q" do complain message
    setStatus 1
    stop
  if suffix.toList.contains '/' then
    fail 1 ("invalid suffix " ++ quotedAlways suffix ++ ", contains directory separator")
  if marks.length < 3 then fail 1 ("too few X's in template " ++ quotedAlways template)
  let inDirectory := operands.isEmpty || g.has "t" || directory.isSome
  let place := match directory with
    | some "" | none => usual
    | some d => d
  let v ← look
  let seed := v.clock + v.pid * 1000003
  let name := stem ++ randomName marks.length seed ++ suffix
  let path := if inDirectory then join place name else name
  if !g.has "u" then
    let made ← if g.has "d" then change (.makeDirectory path 448)
      else
        match ← sys (.open path { writes := true, create := true, exclusive := true, mode := 384 })
        with
        | .ok fd =>
          let _ ← sys (.close fd)
          pure (.ok ())
        | .error e => pure (.error e)
    match made with
    | .ok _ => putLine path
    | .error e =>
      complainUnlessQuiet ("failed to create " ++ (if g.has "d" then "directory" else "file") ++
        " via template " ++ quotedAlways (if inDirectory then join place template else template) ++
        ": " ++ e.message)
  else putLine path

def catalogue : List (String × (List String → Tool Unit)) := [
  ("mkdir", mkdir), ("rmdir", rmdir), ("truncate", truncate), ("mkfifo", mkfifo),
  ("mktemp", mktemp)]

end Remedy.Tool.Entries
