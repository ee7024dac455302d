import Remedy.Calendar.Layout
import Remedy.Calendar.Reading
import Remedy.Text.Directive
import Remedy.Text.Escape
import Remedy.Tool.Facts
import Remedy.Tool.Finding.Expression
import Remedy.Tool.Running

namespace Remedy.Tool.Finding

open Unix Files

structure Visit where
  path : String
  start : String
  depth : Nat
  status : Status

structure Progress where
  isPruned : Bool := false
  isOver : Bool := false
  /-- What has been gathered for the commands that run on many files, the last file first. -/
  gathered : List (Nat × List String) := []

abbrev Walking := StateT Progress Tool

/-- The status of a path; a link that leads nowhere is looked at itself. -/
def statusOf (v : View) (path : String) (follow : Bool) : Except Errno Status :=
  if follow then
    match v.status path true with
    | .ok s => .ok s
    | .error _ => v.status path false
  else v.status path false

def kindLetter : Kind → Char
  | .regular => 'f'
  | .directory => 'd'
  | .link => 'l'
  | .fifo => 'p'
  | .character => 'c'

def finalLetter (v : View) (path : String) : Char :=
  match v.status path true with
  | .ok s => kindLetter s.kind
  | .error .tooManyLinks => 'L'
  | .error _ => 'N'

def matchesPattern (pattern text : String) (ignoresCase : Bool) : Bool :=
  let lower (s : String) := String.ofList (s.toList.map Char.toLower)
  let (pattern, text) := if ignoresCase then (lower pattern, lower text) else (pattern, text)
  Shell.Pattern.accepts (Shell.Pattern.ofString pattern false) text

def nameOf (path : String) : String := baseName path

def pathBelow (x : Visit) : String :=
  if x.depth = 0 then ""
  else
    let rest := x.path.toList.drop x.start.length
    String.ofList (if rest.head? == some '/' then rest.drop 1 else rest)

def isEmpty (v : View) (x : Visit) : Bool :=
  match x.status.kind with
  | .regular => x.status.size = 0
  | .directory => (v.names x.path).toOption == some []
  | _ => false

def stamp (n : Int) : String :=
  let m := Calendar.Moment.ofNanoseconds n
  Calendar.layout m "%a %b %e %H:%M:%S." ++ Calendar.filled (some '0') 9 m.nanosecond ++ "0 " ++
    toString m.year

def momentPart (n : Int) (letter : Char) : String :=
  let m := Calendar.Moment.ofNanoseconds n
  let fraction := "." ++ Calendar.filled (some '0') 9 m.nanosecond ++ "0"
  match letter with
  | '@' => toString m.seconds ++ fraction
  | 'S' => Calendar.layout m "%S" ++ fraction
  | 'T' => Calendar.layout m "%H:%M:%S" ++ fraction
  | '+' => Calendar.layout m "%Y-%m-%d+%H:%M:%S" ++ fraction
  | c => Calendar.layout m ("%" ++ String.singleton c)

/-- What a letter of a format stands for; `true` tells that it is a number. -/
def fact? (v : View) (x : Visit) (letter : Char) : Option (String × Bool) :=
  let s := x.status
  match letter with
  | 'p' => some (x.path, false)
  | 'f' => some (nameOf x.path, false)
  | 'h' => some (match x.path.toList.reverse.dropWhile (· ≠ '/') with
    | [] => "."
    | _ :: rest => if rest.isEmpty then "" else String.ofList rest.reverse, false)
  | 'P' => some (pathBelow x, false)
  | 'H' => some (x.start, false)
  | 'd' => some (toString x.depth, true)
  | 's' => some (toString s.size, false)
  | 'k' => some (toString (Listing.blocks s), false)
  | 'b' => some (toString (2 * Listing.blocks s), false)
  | 'm' => some (String.ofList (Nat.toDigits 8 s.mode), true)
  | 'M' => some (s.letters, false)
  | 'y' => some (String.singleton (kindLetter s.kind), false)
  | 'Y' => some (String.singleton (finalLetter v x.path), false)
  | 'l' => some (match v.node x.path false with
    | .ok (.link target) => Text.Octets.ofList target
    | _ => "", false)
  | 'i' => some (toString s.inode, false)
  | 'n' => some (toString s.links, true)
  | 'u' => some (Accounts.userText v s.user, false)
  | 'g' => some (Accounts.groupText v s.group, false)
  | 'U' => some (toString s.user, false)
  | 'G' => some (toString s.group, false)
  | 't' | 'a' | 'c' => some (stamp s.modified, false)
  | 'D' => some (toString Facts.device, false)
  | 'F' => some ("overlay", false)
  | _ => none

def formatted (v : View) (x : Visit) : Nat → List Char → List String → List String →
    List String × List String
  | 0, _, out, said => (out.reverse, said.reverse)
  | _, [], out, said => (out.reverse, said.reverse)
  | fuel + 1, '\\' :: cs, out, said =>
    match Text.Escape.one { stops := true } cs with
    | .stop => (out.reverse, said.reverse)
    | .characters text rest => formatted v x fuel rest (String.ofList text :: out) said
    | .incomplete => (out.reverse, said.reverse)
  | fuel + 1, '%' :: '%' :: cs, out, said => formatted v x fuel cs ("%" :: out) said
  | fuel + 1, '%' :: cs, out, said =>
    let w := Text.Directive.read cs
    match w.rest with
    | [] => (("%" ++ String.ofList cs) :: out).reverse |> fun out => (out, said.reverse)
    | letter :: rest =>
      match letter, rest with
      | 'T', part :: rest | 'A', part :: rest | 'C', part :: rest =>
        formatted v x fuel rest
          (w.directive.text (momentPart x.status.modified part) :: out) said
      | _, _ =>
        match fact? v x letter with
        | some (text, isNumber) =>
          let shown := if isNumber then w.directive.padNumber "" text true
            else w.directive.text text
          formatted v x fuel rest (shown :: out) said
        | none =>
          let warning := "warning: unrecognized format directive \x60%" ++ String.singleton letter ++
            "'"
          formatted v x fuel rest (("%" ++ String.singleton letter) :: out) (warning :: said)
  | fuel + 1, c :: cs, out, said => formatted v x fuel cs (String.singleton c :: out) said

def row (v : View) (x : Visit) : String :=
  let s := x.status
  let time := Calendar.Moment.ofNanoseconds s.modified
  let recent := s.modified ≤ v.files.now && v.files.now - s.modified < 15552000 * Calendar.second
  let target := match v.node x.path false with
    | .ok (.link t) => " -> " ++ Text.Octets.ofList t
    | _ => ""
  padLeft (toString s.inode) 9 ++ " " ++ padLeft (toString (Listing.blocks s)) 6 ++ " " ++
    s.letters ++ " " ++ padLeft (toString s.links) 3 ++ " " ++ 
    padRight (Accounts.userText v s.user) 8 ++ " " ++
    padRight (Accounts.groupText v s.group) 8 ++ " " ++ padLeft (toString s.size) 8 ++ " " ++
    Calendar.layout time (if recent then "%b %e %H:%M" else "%b %e  %Y") ++ " " ++ x.path ++ target

def printTo (file : Option String) (text : String) : Walking Bool := do
  match file with
  | none => put text
  | some path =>
    match ← (sys (.open path .appending) : Tool _) with
    | .ok fd =>
      let _ ← (act (Act.writeTo fd text) : Tool _)
      let _ ← (sys (.close fd) : Tool _)
    | .error e =>
      complain ("'" ++ path ++ "': " ++ e.message)
      note 1
  return true

def runCommand (words : List String) (directory : Option String) : Tool (Option Exit) := do
  let name := words.headD ""
  let environment := (← get).environment
  flush
  match ← Running.locate environment name with
  | .error e =>
    complain ("'" ++ name ++ "': " ++ e.message)
    return none
  | .ok path =>
    let child : Act Errno := do
      match directory with
      | some d =>
        let _ ← Act.ask (.goTo d)
      | none => pure ()
      Running.become path words environment
    let pid ← act (Act.fork (child fun e => .exit (Running.statusOf e)))
    return some (← Running.await pid)

def filled (words : List String) (path : String) : List String :=
  words.map fun w => Running.replaced w "\x7b\x7d" path

def runMany (words paths : List String) : Tool Unit := do
  match ← runCommand (words ++ paths) none with
  | some (.code 0) => pure ()
  | _ => note 1

def batchSize : Nat := 131072

def hasSize (b : Bound) (unit size : Nat) : Bool := b.holds ((size + unit - 1) / unit : Nat)

/-- Whether a primary holds for a file; an action is carried out. -/
def check (plan : Plan) (x : Visit) : Primary → Walking Bool
  | .yes => return true
  | .no => return false
  | .name pattern ignoresCase whole =>
    return matchesPattern pattern (if whole then x.path else nameOf x.path) ignoresCase
  | .target pattern ignoresCase => do
    match (← (look : Tool _)).node x.path false with
    | .ok (.link target) => return matchesPattern pattern (Text.Octets.ofList target) ignoresCase
    | _ => return false
  | .regex r => return Regex.occurs r x.path
  | .kind letters other => do
    if !other then return letters.contains (kindLetter x.status.kind)
    let v ← (look : Tool _)
    match statusOf v x.path !plan.follows with
    | .ok s => return letters.contains (kindLetter s.kind)
    | .error _ => return false
  | .size b unit => return hasSize b unit x.status.size
  | .empty => return isEmpty (← (look : Tool _)) x
  | .newer than => return x.status.modified > than
  | .days b => do
    let age := (← (look : Tool _)).files.now - x.status.modified
    let day := 86400 * Calendar.second
    return match b.order with
      -- less than some days leaves a second to spare
      | .lt => age < b.value * day + Calendar.second
      | _ => b.holds (age.fdiv day)
  | .minutes b => do
    let age := (← (look : Tool _)).files.now - x.status.modified
    let minute := 60 * Calendar.second
    return match b.order with
      | .gt => age > b.value * minute
      | .lt => age < b.value * minute
      | .eq => age ≥ b.value * minute - minute && age < b.value * minute
  | .mode bits which =>
    return match which with
      | .exactly => x.status.mode == bits
      | .all => x.status.mode &&& bits == bits
      | .any => bits == 0 || x.status.mode &&& bits != 0
  | .user b => return b.holds x.status.user
  | .group b => return b.holds x.status.group
  | .unknownUser => return (Accounts.userName? (← look) x.status.user).isNone
  | .unknownGroup => return (Accounts.groupName? (← look) x.status.group).isNone
  | .links b => return b.holds x.status.links
  | .inode b => return b.holds x.status.inode
  | .same n => return x.status.inode == n
  | .executable => return x.status.kind == .directory || x.status.isExecutable
  | .prune => do
    unless plan.isDeep do modify ({ · with isPruned := true })
    return true
  | .quit => do
    modify ({ · with isOver := true })
    return true
  | .delete => do
    if x.path == "." then return true
    let c : Change := if x.status.kind == .directory then .removeDirectory x.path
      else .removeFile x.path
    match ← (change c : Tool _) with
    | .ok _ => return true
    | .error e =>
      complain ("cannot delete '" ++ x.path ++ "': " ++ e.message)
      note 1
      return false
  | .print finish file => printTo file (x.path ++ finish)
  | .format text file => do
    let v ← (look : Tool _)
    let (out, said) := formatted v x (text.length + 1) text.toList [] []
    said.forM fun s => complain s
    printTo file (String.join out)
  | .list file => do
    let v ← (look : Tool _)
    printTo file (row v x ++ "\n")
  | .run words how => do
    match how with
    | .each =>
      return (← runCommand (filled words x.path) none) == some (.code 0)
    | .inPlace =>
      let parent := Place.parent x.path
      let name := "./" ++ nameOf x.path
      return (← runCommand (filled words name) (some parent)) == some (.code 0)
    | .asked =>
      flush
      writeError ("< " ++ words.headD "" ++ " ... " ++ x.path ++ " > ? ")
      if (← (readLine : Tool _)).any fun line => line.startsWith "y" || line.startsWith "Y" then
        return (← runCommand (filled words x.path) none) == some (.code 0)
      else return false
    | .many n =>
      let p ← get
      let paths := x.path :: ((p.gathered.lookup n).getD [])
      let others := p.gathered.filter (·.1 ≠ n)
      if paths.foldl (fun k s => k + s.utf8ByteSize + 1) 0 > batchSize then
        runMany words paths.reverse
        set { p with gathered := others }
      else set { p with gathered := (n, paths) :: others }
      return true

/-- Whether an expression holds; nothing is done any more once the walk is over. -/
def evaluate (plan : Plan) (x : Visit) : Expression → Walking Bool
  | .primary p => do
    if (← get).isOver then return false else check plan x p
  | .not e => return !(← evaluate plan x e)
  | .and a b => do
    if ← evaluate plan x a then evaluate plan x b else return false
  | .or a b => do
    if ← evaluate plan x a then return true else evaluate plan x b
  | .both a b => do
    let _ ← evaluate plan x a
    evaluate plan x b

def visit (plan : Plan) (e : Expression) (start : String) :
    Nat → Nat → String → Walking Unit
  | 0, _, _ => pure ()
  | fuel + 1, depth, path => do
    if (← get).isOver then return
    let v ← (look : Tool _)
    let follow := plan.follows || (plan.followsOperands && depth = 0)
    match statusOf v path follow with
    | .error err =>
      complain ("'" ++ path ++ "': " ++ err.message)
      note 1
    | .ok status =>
      let x : Visit := { path, start, depth, status }
      let isDue := depth ≥ plan.least
      modify ({ · with isPruned := false })
      if isDue && !plan.isDeep then
        let _ ← evaluate plan x e
      let p ← get
      let goesOn := !p.isOver && !p.isPruned && plan.most.all (depth < ·)
      if goesOn && status.kind == .directory then
        match (← (look : Tool _)).names path with
        | .ok names => names.forM fun name => visit plan e start fuel (depth + 1) (join path name)
        | .error err =>
          complain ("'" ++ path ++ "': " ++ err.message)
          note 1
      if isDue && plan.isDeep then
        let _ ← evaluate plan x e

def commandsOf : Expression → List (Nat × List String)
  | .primary (.run words (.many n)) => [(n, words)]
  | .primary _ => []
  | .not e => commandsOf e
  | .and a b | .or a b | .both a b => commandsOf a ++ commandsOf b

def filesOf : Expression → List String
  | .primary (.print _ (some f)) | .primary (.format _ (some f)) | .primary (.list (some f)) => [f]
  | .primary _ => []
  | .not e => filesOf e
  | .and a b | .or a b | .both a b => filesOf a ++ filesOf b

def beginsExpression (w : String) : Bool :=
  (w.startsWith "-" && w.length > 1) || w == "(" || w == "!"

def find (words : List String) : Tool Unit := do
  let modes := words.takeWhile fun w => w == "-H" || w == "-L" || w == "-P"
  let words := words.drop modes.length
  let words := if words.head? == some "--" then words.drop 1 else words
  let paths := words.takeWhile (!beginsExpression ·)
  let v ← look
  let facts : Facts := {
    isThere := v.exists?
    modified := fun path => (v.status path true).map (·.modified)
    number := fun path => (v.status path false).map (·.inode)
    moment := fun text => Calendar.read? text v.files.now
    user := fun text => (Accounts.userNumber? v text).orElse fun _ => natural? text.toList
    group := fun text => (Accounts.groupNumber? v text).orElse fun _ => natural? text.toList }
  let plan : Plan :=
    { follows := modes.getLast? == some "-L", followsOperands := modes.getLast? == some "-H" }
  match readExpression facts plan (words.drop paths.length) with
  | .error message => fail 1 message
  | .ok (e, plan) =>
    (filesOf e).forM fun path => do
      match ← sys (.open path .output) with
      | .ok fd => let _ ← sys (.close fd)
      | .error err => fail 1 ("'" ++ path ++ "': " ++ err.message)
    let paths := if paths.isEmpty then ["."] else paths
    let walk : Walking Unit := paths.forM fun path => do
      let p ← get
      unless p.isOver do
        if path == "" then
          complain ("'': " ++ Errno.message .missing)
          note 1
        else visit plan e path 10000 0 path
    let ((), p) ← walk.run {}
    (commandsOf e).forM fun (n, words) =>
      match p.gathered.lookup n with
      | some paths => runMany words paths.reverse
      | none => pure ()

def catalogue : List (String × (List String → Tool Unit)) := [("find", find)]

end Remedy.Tool.Finding
