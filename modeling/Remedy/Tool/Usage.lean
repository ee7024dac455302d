import Remedy.Shell.Pattern
import Remedy.Tool.Listing.Table

namespace Remedy.Tool.Usage

open Unix Files

structure Tally where
  octets : Nat := 0
  files : Nat := 0
  modified : Option Int := none

def Tally.add (a b : Tally) : Tally :=
  { octets := a.octets + b.octets
    files := a.files + b.files
    modified := match a.modified, b.modified with
      | some m, some n => some (max m n)
      | m, n => m.or n }

structure Threshold where
  isGreatest : Bool
  octets : Nat

structure Plan where
  amount : Amount := {}
  isApparent : Bool := false
  tellsFiles : Bool := false
  tellsTotal : Bool := false
  isSummary : Bool := false
  most : Option Nat := none
  countsLinks : Bool := false
  countsFiles : Bool := false
  isSeparate : Bool := false
  follows : Bool := false
  followsOperands : Bool := false
  remembersAll : Bool := false
  excluded : List String := []
  threshold : Option Threshold := none
  tellsTime : Bool := false
  timeStyle : String := "long-iso"
  finish : String := "\n"

/-- Whether a path, or what stands behind one of its slashes, fits a pattern. -/
def Plan.excludes (p : Plan) (path : String) : Bool :=
  let names := path.splitOn "/"
  let tails := (List.range names.length).map fun n => "/".intercalate (names.drop n)
  p.excluded.any fun pattern =>
    (tails.filter (· != "")).any fun tail =>
      Shell.Pattern.accepts (Shell.Pattern.ofString pattern false) tail

structure Row where
  tally : Tally
  path : String

structure Walk where
  rows : List Row := []
  seen : List Nat := []

/-- Adds up what stands below a path; `none` if the path is left out. -/
def Plan.measure (p : Plan) (v : View) : Nat → Nat → String → Walk → Option (Tally × Tally) × Walk
  | 0, _, _, w => (none, w)
  | fuel + 1, depth, path, w =>
    match v.status path (p.follows || depth = 0 && p.followsOperands) with
    | .error _ => (none, w)
    | .ok s =>
      let isDirectory := s.kind == .directory
      let isWatched := !p.countsLinks && s.inode ≠ 0 &&
        (p.remembersAll || !isDirectory && s.links > 1)
      if p.excludes path || isWatched && w.seen.contains s.inode then (none, w)
      else
        let w := if isWatched then { w with seen := s.inode :: w.seen } else w
        let size := if p.isApparent then if s.kind == .regular || s.kind == .link then s.size else 0
          else 1024 * Listing.blocks s
        let own : Tally := { octets := size, files := 1, modified := some s.modified }
        let names := if isDirectory then
            ((v.node path true).toOption.elim [] Node.entries).map fun e => Text.Octets.ofList e.1
          else []
        -- what is told of a directory may leave the directories below it out
        let (told, total, w) := names.foldl (fun (told, total, w) name =>
          match p.measure v fuel (depth + 1) (join path name) w with
          | (some (ofFiles, all), w) => (told.add ofFiles, total.add all, w)
          | (none, w) => (told, total, w)) (own, own, w)
        let shown := if p.isSeparate then told else total
        let isTold := depth = 0 || (isDirectory || p.tellsFiles) && p.most.all (depth ≤ ·)
        let count := if p.countsFiles then shown.files else shown.octets
        let fits := p.threshold.all fun t =>
          if t.isGreatest then count ≤ t.octets else count ≥ t.octets
        let w := if isTold && fits then { w with rows := ⟨shown, path⟩ :: w.rows } else w
        (some (if isDirectory then {} else own, total), w)

def Plan.time (p : Plan) (n : Int) : String :=
  let m := Calendar.Moment.ofNanoseconds n
  match p.timeStyle with
  | "full-iso" => Calendar.layout m "%Y-%m-%d %H:%M:%S.%N %z"
  | "iso" => Calendar.layout m "%Y-%m-%d"
  | style =>
    if style.startsWith "+" then Calendar.layout m (String.ofList (style.toList.drop 1))
    else Calendar.layout m "%Y-%m-%d %H:%M"

def Plan.text (p : Plan) (t : Tally) (path : String) : String :=
  let count := if p.countsFiles then
      if p.amount.scales then p.amount.write t.files else toString t.files
    else p.amount.write t.octets
  count ++ "\t" ++ (if p.tellsTime then p.time (t.modified.getD 0) ++ "\t" else "") ++ path ++
    p.finish

def Plan.take (p : Plan) (key argument : String) : Tool Plan := do
  match key with
  | "0" => return { p with finish := "\x00" }
  | "a" => return { p with tellsFiles := true }
  | "apparent-size" => return { p with isApparent := true }
  | "B" | "block-size" =>
    match Amount.read argument with
    | .ok a => return { p with amount := a }
    | .error m => refuseSize (if key == "B" then "-B" else "--block-size") argument m 1
  | "b" => return { p with isApparent := true, amount := .octets }
  | "c" => return { p with tellsTotal := true }
  | "D" | "H" => return { p with follows := false, followsOperands := true }
  | "d" =>
    match natural? argument with
    | some n => return { p with most := some n }
    | none => refuse 1 ("invalid maximum depth " ++ quotedAlways argument)
  | "h" => return { p with amount := .human 1024 }
  | "si" => return { p with amount := .human 1000 }
  | "inodes" => return { p with countsFiles := true }
  | "k" => return { p with amount := {} }
  | "m" => return { p with amount := { unit := 1048576 } }
  | "L" => return { p with follows := true }
  | "l" => return { p with countsLinks := true }
  | "P" => return { p with follows := false, followsOperands := false }
  | "S" => return { p with isSeparate := true }
  | "s" => return { p with isSummary := true }
  | "t" | "threshold" =>
    let option := if key == "t" then "-t" else "--threshold"
    let isGreatest := argument.startsWith "-"
    let text := if isGreatest then String.ofList (argument.toList.drop 1) else argument
    match sized "kKmMGTPEZYRQ0" text with
    | .ok n =>
      if isGreatest && n = 0 then
        fail 1 ("invalid " ++ option ++ " argument " ++ marked argument)
      else return { p with threshold := some ⟨isGreatest, n⟩ }
    | .error m => refuseSize option argument m 1
  | "time" =>
    if argument != "" then
      let _ ← choose "--time" [["atime", "access", "use"], ["ctime", "status"]] argument
    return { p with tellsTime := true }
  | "time-style" => return { p with timeStyle := argument }
  | "exclude" => return { p with excluded := argument :: p.excluded }
  | "X" =>
    match ← readAll argument with
    | .ok text => return { p with excluded := (linesOf text).1 ++ p.excluded }
    | .error e => refuse 1 (quoted argument ++ ": " ++ e.message)
  | _ => return p

def du (words : List String) : Tool Unit := do
  let g ← given [opt '0' "null", opt 'a' "all", long "apparent-size", opt 'B' "" .argument,
    long "block-size" .argument, opt 'b' "bytes", opt 'c' "total", opt 'D' "dereference-args",
    opt 'H' "", opt 'd' "max-depth" .argument, long "files0-from" .argument,
    opt 'h' "human-readable", long "inodes", opt 'k' "", opt 'm' "", opt 'L' "dereference",
    opt 'l' "count-links", opt 'P' "no-dereference", opt 'S' "separate-dirs", long "si",
    opt 's' "summarize", opt 't' "" .argument, long "threshold" .argument, long "time" .maybe,
    long "time-style" .argument, opt 'X' "exclude-from" .argument, long "exclude" .argument,
    opt 'x' "one-file-system"] words
  let environment := (← get).environment
  let usual := (Amount.ofVariables environment ["DU_BLOCK_SIZE", "BLOCK_SIZE", "BLOCKSIZE"]).getD
    (if environment.any (·.1 == "POSIXLY_CORRECT") then { unit := 512 } else {})
  let p ← g.options.foldlM (fun p (key, argument) => Plan.take p key argument)
    ({ amount := usual } : Plan)
  if p.isSummary && p.tellsFiles then refuse 1 "cannot both summarize and show all entries"
  if p.isSummary then
    match p.most with
    | none => pure ()
    | some 0 => complain "warning: summarizing is the same as using --max-depth=0"
    | some n => refuse 1 ("warning: summarizing conflicts with --max-depth=" ++ toString n)
  if p.tellsTime && !p.timeStyle.startsWith "+" then
    unless ["full-iso", "long-iso", "iso"].contains p.timeStyle do
      complain ("invalid argument " ++ marked p.timeStyle ++ " for 'time style'")
      writeError "Valid arguments are:\n  - 'full-iso'\n  - 'long-iso'\n  - 'iso'\n"
      writeError "Try 'du --help' for more information.\n"
      setStatus 1
      stop
  let operands ← match g.argument? "files0-from" with
    | none => pure (if g.operands.isEmpty then ["."] else g.operands)
    | some path =>
      match g.operands with
      | w :: _ => refuseBesideList 1 w
      | [] =>
        match ← readAll path with
        | .ok text => pure (linesOf text '\x00').1
        | .error e =>
          fail 1 ("cannot open " ++ quotedAlways path ++ " for reading: " ++ e.message)
  let p := { p with
    most := if p.isSummary then some 0 else p.most
    remembersAll := p.follows || operands.length > 1 }
  let v ← look
  let (total, _) ← operands.foldlM (fun ((total, seen) : Tally × List Nat) path => do
    match v.status path (p.follows || p.followsOperands) with
    | .error e =>
      complain ("cannot access " ++ quotedAlways path ++ ": " ++ e.message)
      note 1
      return (total, seen)
    | .ok _ =>
      let (found, w) := p.measure v 4096 0 path { seen }
      w.rows.reverse.forM fun row => put (p.text row.tally row.path)
      return (found.elim total fun (_, t) => total.add t, w.seen)) ({}, [])
  if p.tellsTotal then put (p.text total "total")

def catalogue : List (String × (List String → Tool Unit)) := [("du", du)]

end Remedy.Tool.Usage
