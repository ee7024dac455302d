import Remedy.Calendar.Layout
import Remedy.Calendar.Reading
import Remedy.Tool.Accounts
import Remedy.Tool.Input

namespace Remedy.Tool.Surroundings

open Unix Files

/-- The layouts of the date alone and of the date with more and more of the time. -/
def isoLayouts (separator : String) : List (String × String) :=
  let date := "%Y-%m-%d"
  [("hours", date ++ separator ++ "%H%:z"), ("minutes", date ++ separator ++ "%H:%M%:z"),
    ("date", date), ("seconds", date ++ separator ++ "%H:%M:%S%:z"),
    ("ns", date ++ separator ++ "%H:%M:%S" ++ (if separator == "T" then "," else ".") ++ "%N%:z")]

def chooseLayout (option value : String) (layouts : List (String × String)) : Tool String := do
  match layouts.filter fun l => l.1.startsWith value with
  | [] =>
    complain ("invalid argument " ++ quotedAlways value ++ " for '--" ++ option ++ "'")
    writeError ("Valid arguments are:\n" ++
      String.join (layouts.map fun l => "  - " ++ quotedAlways l.1 ++ "\n"))
    writeError ("Try '" ++ (← get).name ++ " --help' for more information.\n")
    setStatus 1
    stop
  | l :: _ => return l.2

def defaultLayout : String := "%a %b %e %H:%M:%S %Z %Y"

def optionLayout (key value : String) : Tool (Option String) := do
  match key with
  | "I" =>
    let value := if value == "" then "date" else value
    return some (← chooseLayout "iso-8601" value (isoLayouts "T"))
  | "R" => return some "%a, %d %b %Y %H:%M:%S %z"
  | "rfc-3339" =>
    let layouts := (isoLayouts " ").filter fun l => l.1 != "hours" && l.1 != "minutes"
    return some (← chooseLayout "rfc-3339" value layouts)
  | "resolution" => return some "%s.%N"
  | _ => return none

def date (words : List String) : Tool Unit := do
  let g ← given [opt 'd' "date" .argument, opt 'f' "file" .argument, opt 'I' "iso-8601" .maybe,
    opt 'r' "reference" .argument, opt 'R' "rfc-email", opt 's' "set" .argument,
    { letter := some 'u', names := ["utc", "universal", "uct"] }, long "rfc-3339" .argument,
    long "debug", long "resolution"] words
  let v ← look
  let now : Int := v.files.now
  let mut layout : Option String := none
  for (key, value) in g.options do
    let next ← optionLayout key value
    if next.isSome && layout.isSome then fail 1 "multiple output formats specified"
    layout := next <|> layout
  let show' (layout : String) (n : Int) : Tool Unit :=
    putLine (Calendar.layout (Calendar.Moment.ofNanoseconds n) layout)
  let read (s : String) : Tool (Option Int) := do
    match Calendar.read? s now with
    | some n => return some n
    | none =>
      complain ("invalid date " ++ quotedAlways s)
      note 1
      return none
  let hasDate := g.has "d" || g.has "r" || g.has "f"
  if (["d", "f", "r", "resolution"].filter g.has).length > 1 then
    refuse 1 "the options to specify dates for printing are mutually exclusive"
  if g.has "s" && (hasDate || g.has "resolution") then
    refuse 1 "the options to print and set the time may not be used together"
  match g.operands with
  | w :: rest =>
    match w.toList with
    | '+' :: cs =>
      match rest with
      | extra :: _ => refuse 1 ("extra operand " ++ quotedAlways extra)
      | [] =>
        if layout.isSome then fail 1 "multiple output formats specified"
        layout := some (String.ofList cs)
    | _ =>
      if hasDate || layout.isSome then
        complain ("the argument " ++ quotedAlways w ++ " lacks a leading '+';")
        writeError ("when using an option to specify date(s), any non-option\n" ++
          "argument must be a format string beginning with '+'\n")
        writeError ("Try '" ++ (← get).name ++ " --help' for more information.\n")
        setStatus 1
        stop
      match rest with
      | extra :: _ => refuse 1 ("extra operand " ++ quotedAlways extra)
      | [] =>
        match Calendar.readStamp? w now with
        | some _ => fail 1 "cannot set date: Operation not permitted"
        | none => fail 1 ("invalid date " ++ quotedAlways w)
  | [] => pure ()
  let show' := show' (layout.getD defaultLayout)
  match g.argument? "r", g.argument? "d", g.argument? "f" with
  | some path, _, _ =>
    match v.status path true with
    | .ok s => show' s.modified
    | .error e => fail 1 (quoted path ++ ": " ++ e.message)
  | none, some text, _ =>
    match ← read text with
    | some n => show' n
    | none => pure ()
  | none, none, some path =>
    forFiles [path] fun _ text =>
      (linesOf text).1.forM fun line => do
        match ← read line with
        | some n => show' n
        | none => pure ()
  | none, none, none => show' now

def numbered (n : Nat) (name? : Option String) : String :=
  toString n ++ (name?.elim "" fun name => "(" ++ name ++ ")")

def account? (v : View) (word : String) : Option (Nat × List Nat) := do
  let user ← (Accounts.userNumber? v word).orElse fun _ =>
    (Accounts.numeric? word).filter fun n => (Accounts.userName? v n).isSome
  let name ← Accounts.userName? v user
  let group ← Accounts.loginGroup? v name
  let others := (Accounts.groups v).filterMap fun row =>
    if ((row.getD 3 "").splitOn ",").contains name then natural? (row.getD 2 "") else none
  return (user, group :: others.filter (· ≠ group))

def identity (words : List String) : Tool Unit := do
  let g ← given [opt 'a' "", opt 'g' "group", opt 'G' "groups", opt 'n' "name", opt 'r' "real",
    opt 'u' "user", opt 'z' "zero", opt 'Z' "context"] words
  if g.has "Z" then fail 1 "--context (-Z) works only on an SELinux-enabled kernel"
  let chosen := ["u", "g", "G"].filter g.has
  if chosen.length > 1 then fail 1 "cannot print \"only\" of more than one choice"
  if chosen.isEmpty && (g.has "n" || g.has "r") then
    fail 1 "cannot print only names or real IDs in default format"
  if chosen.isEmpty && g.has "z" then fail 1 "option --zero not permitted in default format"
  let finish := if g.has "z" then "\x00" else "\n"
  let v ← look
  let users := if g.operands.isEmpty then ["0"] else g.operands
  for user in users do
    match account? v user with
    | none =>
      complain (quotedAlways user ++ ": no such user")
      note 1
    | some (n, groups) =>
      let userName := Accounts.userName? v n
      let shown (n : Nat) (name? : Option String) : String :=
        if g.has "n" then name?.getD (toString n) else toString n
      let group (n : Nat) : String := shown n (Accounts.groupName? v n)
      put (match chosen with
        | ["u"] => shown n userName ++ finish
        | ["g"] => group (groups.headD 0) ++ finish
        | ["G"] =>
          (if g.has "z" then "\x00" else " ").intercalate (groups.map group) ++
            (if g.has "z" && users.length > 1 then "\x00\x00" else finish)
        | _ =>
          let named (n : Nat) : String := numbered n (Accounts.groupName? v n)
          "uid=" ++ numbered n userName ++ " gid=" ++ named (groups.headD 0) ++ " groups=" ++
            ",".intercalate (groups.map named) ++ finish)

def ownName : String := "root"

def whoami (words : List String) : Tool Unit := do
  let g ← given [] words
  bound g 0
  putLine ownName

def groups (words : List String) : Tool Unit := do
  let g ← given [] words
  let v ← look
  if g.operands.isEmpty then putLine ownName
  for user in g.operands do
    match account? v user with
    | some (_, groups) =>
      putLine (user ++ " : " ++ " ".intercalate (groups.map (Accounts.groupText v)))
    | none =>
      complain (quotedAlways user ++ ": no such user")
      note 1

def logname (words : List String) : Tool Unit := do
  let g ← given [] words
  bound g 0
  fail 1 "no login name"

def tty (words : List String) : Tool Unit := do
  let g ← given [{ letter := some 's', names := ["silent", "quiet"] }] words
  bound g 0 2
  unless g.has "s" do putLine "not a tty"
  setStatus 1

def hostName : String := "localhost"

def systemParts : List (Char × String × String) :=
  [('s', "kernel-name", "Linux"), ('n', "nodename", hostName), ('r', "kernel-release", "6.1.0"),
    ('v', "kernel-version", "#1 SMP PREEMPT_DYNAMIC"), ('m', "machine", "x86_64"),
    ('p', "processor", "unknown"), ('i', "hardware-platform", "unknown"),
    ('o', "operating-system", "GNU/Linux")]

def uname (words : List String) : Tool Unit := do
  let g ← given (opt 'a' "all" :: systemParts.map fun (c, name, _) => opt c name) words
  bound g 0
  let chosen := systemParts.filter fun (c, _, value) =>
    g.has (String.singleton c) || (g.has "a" && value != "unknown")
  let chosen := if chosen.isEmpty then systemParts.take 1 else chosen
  putLine (" ".intercalate (chosen.map (·.2.2)))

def arch (words : List String) : Tool Unit := do
  let g ← given [] words
  bound g 0
  putLine "x86_64"

def nproc (words : List String) : Tool Unit := do
  let g ← given [long "all", long "ignore" .argument] words
  bound g 0
  let left ← match g.argument? "ignore" with
    | none => pure 0
    | some text =>
      match natural? text with
      | some n => pure n
      | none => fail 1 ("invalid number: " ++ marked text)
  putLine (toString (max 1 (4 - left)))

def hostname (_ : List String) : Tool Unit := putLine hostName

def sync (words : List String) : Tool Unit := do
  let g ← given [opt 'd' "data", opt 'f' "file-system"] words
  if g.has "d" && g.has "f" then fail 1 "cannot specify both --data and --file-system"
  if g.has "d" && g.operands.isEmpty then fail 1 "--data needs at least one argument"
  for path in g.operands do
    match (← look).status path true with
    | .ok _ => pure ()
    | .error e =>
      complain ("error opening " ++ quotedAlways path ++ ": " ++ e.message)
      note 1

def configuration : List (String × String) :=
  [("PATH", "/bin:/usr/bin"), ("ARG_MAX", "2097152"), ("PAGESIZE", "4096"), ("PAGE_SIZE", "4096"),
    ("NAME_MAX", "255"), ("PATH_MAX", "4096"), ("PIPE_BUF", "4096"), ("LINE_MAX", "2048"),
    ("OPEN_MAX", "1024"), ("CHAR_BIT", "8"), ("INT_MAX", "2147483647"), ("LONG_BIT", "64"),
    ("UINT_MAX", "4294967295"), ("CHILD_MAX", "127235"), ("CLK_TCK", "100"),
    ("_NPROCESSORS_ONLN", "4"), ("_NPROCESSORS_CONF", "4")]

def getconf (words : List String) : Tool Unit := do
  match words with
  | name :: _ =>
    match configuration.lookup name with
    | some value => putLine value
    | none => fail 2 ("Unrecognized variable \x60" ++ name ++ "'")
  | [] =>
    writeError "Usage: getconf [-v specification] variable_name [pathname]\n"
    setStatus 2

def which (words : List String) : Tool Unit := do
  let options := words.takeWhile fun w => w.startsWith "-" && w.length > 1 && w != "--"
  let names := (words.drop options.length)
  let names := if names.head? == some "--" then names.drop 1 else names
  let letters := options.flatMap fun w => w.toList.drop 1
  match letters.find? fun c => !"as".toList.contains c with
  | some c =>
    writeError ("Illegal option -" ++ String.singleton c ++ "\nUsage: /usr/bin/which [-as] args\n")
    setStatus 2
  | none =>
    if names.isEmpty then setStatus 1
    let v ← look
    let isProgram (path : String) : Bool := match v.status path true with
      | .ok s => s.kind == .regular && s.isExecutable
      | .error _ => false
    let directories := (((← get).environment.lookup "PATH").getD "").splitOn ":"
    for name in names do
      let candidates := if name.toList.contains '/' then [name]
        else directories.map fun d => join (if d == "" then "." else d) name
      let found := candidates.filter isProgram
      if found.isEmpty then setStatus 1
      else if !letters.contains 's' then
        (if letters.contains 'a' then found else found.take 1).forM putLine

def catalogue : List (String × (List String → Tool Unit)) := [
  ("date", date),
  ("id", identity),
  ("whoami", whoami),
  ("groups", groups),
  ("logname", logname),
  ("tty", tty),
  ("uname", uname),
  ("arch", arch),
  ("nproc", nproc),
  ("hostname", hostname),
  ("sync", sync),
  ("getconf", getconf),
  ("which", which)]

end Remedy.Tool.Surroundings
