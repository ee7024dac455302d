import Remedy.Text.Printf
import Remedy.Tool.Listing.Table
import Remedy.Tool.Place

namespace Remedy.Tool.Facts

open Unix Files Place

def finish (g : Given) : String := if g.has "z" then "\x00" else "\n"

/-- A name without an ending, unless nothing would be left. -/
def withoutEnding (name ending : String) : String :=
  if ending != "" && name != ending && name.endsWith ending then
    String.ofList (name.toList.take (name.length - ending.length))
  else name

def basename (words : List String) : Tool Unit := do
  let g ← given [opt 'a' "multiple", opt 's' "suffix" .argument, opt 'z' "zero"] words true
  demand g 1
  if g.has "a" || g.has "s" then
    g.operands.forM fun path =>
      put (withoutEnding (baseName path) ((g.argument? "s").getD "") ++ finish g)
  else
    bound g 2
    put (withoutEnding (baseName (g.operands.headD "")) (g.operands.getD 1 "") ++ finish g)

def dirname (words : List String) : Tool Unit := do
  let g ← given [opt 'z' "zero"] words
  demand g 1
  g.operands.forM fun path => put (parent path ++ finish g)

def pwd (words : List String) : Tool Unit := do
  let g ← given [opt 'L' "logical", opt 'P' "physical"] words
  unless g.operands.isEmpty do complain "ignoring non-option arguments"
  let v ← look
  let physical := v.directory
  let environment := (← get).environment
  let isLogical := match g.last? ["L", "P"] with
    | some "L" => true
    | some _ => false
    | none => environment.any (·.1 == "POSIXLY_CORRECT")
  let logical := (environment.lookup "PWD").getD ""
  let names := logical.splitOn "/"
  let fits := logical.startsWith "/" && !names.contains "." && !names.contains ".." &&
    (v.location logical true).toOption == some v.cwd
  putLine (if isLogical && fits then logical else physical)

def readlink (words : List String) : Tool Unit := do
  let g ← given [opt 'f' "canonicalize", opt 'e' "canonicalize-existing",
    opt 'm' "canonicalize-missing", opt 'n' "no-newline",
    { letter := some 'q', names := ["quiet"] }, { letter := some 's', names := ["silent"] },
    opt 'v' "verbose", opt 'z' "zero"] words
  demand g 1
  let v ← look
  let many := g.operands.length > 1
  if g.has "n" && many then complain "ignoring --no-newline with multiple arguments"
  let presence : Option Presence := match g.last? ["f", "e", "m"] with
    | some "f" => some .allButLast
    | some "e" => some .all
    | some _ => some .nothing
    | none => none
  g.operands.forM fun path => do
    let found : Except Errno String := match presence with
      | some p => (canonical v path p).map View.pathOf
      | none =>
        match v.node path false with
        | .ok (.link text) => .ok (Text.Octets.ofList text)
        | .ok _ => .error .invalid
        | .error e => .error e
    match found with
    | .ok text =>
      put (text ++ (if g.has "n" && !many then "" else finish g))
    | .error e =>
      if g.has "v" then complain (quoted path ++ ": " ++ e.message)
      note 1

def realpath (words : List String) : Tool Unit := do
  let g ← given [opt 'e' "canonicalize-existing", opt 'm' "canonicalize-missing",
    opt 'L' "logical", opt 'P' "physical", opt 'q' "quiet", opt 's' "strip", opt 'z' "zero",
    long "relative-to" .argument, long "relative-base" .argument, long "no-symlinks"] words
  demand g 1
  let v ← look
  let presence : Presence := match g.last? ["e", "m"] with
    | some "e" => .all
    | some _ => .nothing
    | none => .allButLast
  let directory := (g.argument? "relative-to").bind fun d => (canonical v d .nothing).toOption
  let base := (g.argument? "relative-base").bind fun d => (canonical v d .nothing).toOption
  g.operands.forM fun path => do
    let found := if (g.has "s" || g.has "no-symlinks") && path != "" then
        let segments := Text.segments FileSystem.slash (FileSystem.path path)
        .ok (segments.foldl (fun here name =>
          if name = [] ∨ name = Name.current then here
          else if name = Name.parent then here.dropLast else here ++ [name])
          (if path.startsWith "/" then [] else v.cwd))
      else canonical v path presence
    match found with
    | .ok location =>
      let isBelow := base.all fun b => b.isPrefixOf location
      let shown := match directory, base with
        | some d, _ => if isBelow then relative d location else View.pathOf location
        | none, some b => if isBelow then relative b location else View.pathOf location
        | none, none => View.pathOf location
      put (shown ++ finish g)
    | .error e =>
      unless g.has "q" do complain (quoted path ++ ": " ++ e.message)
      note 1

def hexadecimal (n : Nat) : String := String.ofList (Nat.toDigits 16 n)

def rawMode (s : Status) : Nat :=
  s.mode + match s.kind with
    | .regular => 32768
    | .directory => 16384
    | .link => 40960
    | .fifo => 4096
    | .character => 8192

def device : Nat := 65024

def fullTime (n : Int) : String :=
  Calendar.layout (Calendar.Moment.ofNanoseconds n) "%Y-%m-%d %H:%M:%S.%N %z"

def epochSeconds (n : Int) (precision : Option Nat) : String :=
  let seconds := n.fdiv Calendar.second
  match precision with
  | none => toString seconds
  | some p =>
    let p := if p = 0 then 9 else p
    let digits := Calendar.filled (some '0') 9 (n - seconds * Calendar.second)
    toString seconds ++ "." ++ String.ofList ((digits.toList ++ List.replicate (p - 9) '0').take p)

/-- What a letter of a format stands for; `none` if it stands for nothing. -/
def fact? (v : View) (path : String) (s : Status) (precision : Option Nat) :
    Char → Option String
  | 'n' => some path
  | 'N' =>
    some (match v.node path false with
      | .ok (.link text) =>
        if s.kind == .link then quotedAlways path ++ " -> " ++ quotedAlways (Text.Octets.ofList text)
        else quotedAlways path
      | _ => quotedAlways path)
  | 's' => some (toString s.size)
  | 'F' => some (s.kindName)
  | 'a' => some (Permission.octal s.mode 1)
  | 'A' => some s.letters
  | 'h' => some (toString s.links)
  | 'i' => some (toString s.inode)
  | 'u' => some (toString s.user)
  | 'g' => some (toString s.group)
  | 'U' => some ((Accounts.userName? v s.user).getD "UNKNOWN")
  | 'G' => some ((Accounts.groupName? v s.group).getD "UNKNOWN")
  | 'b' => some (toString (Listing.blocks s * 2))
  | 'B' => some "512"
  | 'd' => some (toString device)
  | 'D' => some (hexadecimal device)
  | 'f' => some (hexadecimal (rawMode s))
  | 't' => some (if s.kind == .character then "1" else "0")
  | 'T' => some (if s.kind == .character then "3" else "0")
  | 'o' => some "4096"
  | 'm' => some "/"
  | 'C' => some "?"
  | 'x' | 'y' | 'z' | 'w' => some (fullTime s.modified)
  | 'X' | 'Y' | 'Z' | 'W' => some (epochSeconds s.modified precision)
  | _ => none

def isNumberLetter (c : Char) : Bool := "ahiugbBdDfstToXYZW".toList.contains c

def formatted (v : View) (path : String) (s : Status) (escapes : Bool) :
    Nat → List Char → List Char → List Char
  | 0, _, done => done
  | _, [], done => done
  | fuel + 1, c :: cs, done =>
    if c == '\\' && escapes then
      match Text.Escape.one { hexadecimal := true, quotes := true } cs with
      | .characters out rest => formatted v path s escapes fuel rest (out.reverse ++ done)
      | _ => done
    else if c == '%' then
      match cs with
      | [] => '%' :: done
      | '%' :: rest => formatted v path s escapes fuel rest ('%' :: done)
      | _ =>
        let w := Text.Directive.read cs
        match w.rest with
        | [] => cs.reverse ++ ('%' :: done)
        | letter :: rest =>
          let precision := match w.precision with
            | .given n => some n
            | _ => none
          let d := w.directive
          let text := match fact? v path s precision letter with
            | some t =>
              if isNumberLetter letter then
                let d := if precision.isSome && "XYZW".toList.contains letter then
                    { d with precision := none } else d
                d.padNumber "" (if precision.isSome && !"XYZW".toList.contains letter then
                  d.digits t else t) true
              else d.text t
            | none => "?"
          formatted v path s escapes fuel rest (text.toList.reverse ++ done)
    else formatted v path s escapes fuel cs (c :: done)

def fullFormat (s : Status) (name : String) : String :=
  "  File: " ++ name ++ "\n  Size: %-10s\tBlocks: %-10b IO Block: %-6o %F\n" ++
  "Device: 254,0\tInode: %-10i  Links: " ++
  (if s.kind == .character then "%-5h Device type: %t,%T\n" else "%h\n") ++
  "Access: (%04a/%10A)  Uid: (%5u/%8U)   Gid: (%5g/%8G)\n" ++
  "Access: %x\nModify: %y\nChange: %z\n Birth: %w\n"

def terseFormat : String := "%n %s %b %f %u %g %D %i %h %t %T %X %Y %Z %W %o\n"

def stat (words : List String) : Tool Unit := do
  let g ← given [opt 'c' "format" .argument, long "printf" .argument, opt 'L' "dereference",
    opt 'f' "file-system", opt 't' "terse", long "cached" .argument] words
  let _ ← choiceOf g "cached" "--cached" [["default"], ["never"], ["always"]]
  demand g 1
  let v ← look
  g.operands.forM fun path => do
    let found := if path == "-" then v.status "/dev/stdin" true else v.status path (g.has "L")
    match found with
    | .error e =>
      complain ("cannot statx " ++ quotedAlways path ++ ": " ++ e.message)
      note 1
    | .ok s =>
      let (format, escapes, finish) := match g.last? ["c", "printf"] with
        | some "c" => ((g.argument? "c").getD "", false, "\n")
        | some _ => ((g.argument? "printf").getD "", true, "")
        | none =>
          if g.has "t" then (terseFormat, false, "")
          else
            let behind := match v.node path false with
              | .ok (.link text) =>
                if g.has "L" then "" else " -> " ++ quotedWord (Text.Octets.ofList text)
              | _ => ""
            (fullFormat s ((quotedWord path ++ behind).replace "%" "%%"), false, "")
      let cs := formatted v path s escapes (format.length + 1) format.toList []
      put (String.ofList cs.reverse ++ finish)

def catalogue : List (String × (List String → Tool Unit)) := [
  ("basename", basename), ("dirname", dirname), ("pwd", pwd), ("readlink", readlink),
  ("realpath", realpath), ("stat", stat)]

end Remedy.Tool.Facts
