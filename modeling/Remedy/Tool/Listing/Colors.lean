import Remedy.Files.Status

namespace Remedy.Tool.Listing

open Files

structure Colors where
  kinds : List (String × String) := []
  endings : List (String × String) := []

namespace Colors

/-- The codes that hold where nothing else is said. -/
def usual : List (String × String) :=
  [("di", "01;34"), ("ln", "01;36"), ("pi", "33"), ("so", "01;35"), ("bd", "01;33"),
    ("cd", "01;33"), ("ex", "01;32"), ("su", "37;41"), ("sg", "30;43"), ("st", "37;44"),
    ("ow", "34;42"), ("tw", "30;42")]

def kind? (c : Colors) (letters : String) : Option String :=
  ((c.kinds.lookup letters).orElse fun _ => usual.lookup letters).filter fun code =>
    code != "" && code != "0" && code != "00"

def code? (c : Colors) (name : String) (s : Status) : Option String :=
  let has (bits : Nat) : Bool := s.mode &&& bits == bits
  let first (letters : List String) : Option String := letters.findSome? c.kind?
  match s.kind with
  | .link => c.kind? "ln"
  | .fifo => c.kind? "pi"
  | .character => c.kind? "cd"
  | .directory =>
    if has 514 then first ["tw", "di"]
    else if has 2 then first ["ow", "di"]
    else if has 512 then first ["st", "di"]
    else c.kind? "di"
  | .regular =>
    let special := if has 2048 then c.kind? "su" else if has 1024 then c.kind? "sg"
      else if s.isExecutable then c.kind? "ex" else none
    special.orElse fun _ =>
      ((c.endings.find? fun e => name.endsWith e.1).map (·.2)).orElse fun _ => c.kind? "fi"

def wrap (_ : Colors) (code text : String) : String :=
  "\x1b[" ++ code ++ "m" ++ text ++ "\x1b[0m"

def read (text : String) : Colors :=
  let pairs := (text.splitOn ":").filterMap fun item =>
    match item.splitOn "=" with
    | [key, code] => some (key, code)
    | _ => none
  { kinds := pairs.filter fun (key, _) => !key.startsWith "*"
    endings := (pairs.filter fun (key, _) => key.startsWith "*").reverse.map fun (key, code) =>
      (String.ofList (key.toList.drop 1), code) }

def terminals : List String :=
  ["Eterm", "ansi", "cons25", "console", "cygwin", "dtterm", "gnome", "hurd", "jfbterm", "konsole",
    "kterm", "linux", "mach", "mlterm", "putty", "rxvt", "screen", "st", "terminator", "tmux",
    "vt100", "xterm"]

/-- The colors that variables ask for; `none` where nothing knows of colors. -/
def ofVariables (environment : List (String × String)) : Option Colors :=
  match environment.lookup "LS_COLORS" with
  | none | some "" =>
    let terminal := (environment.lookup "TERM").getD ""
    let isKnown := terminals.any (terminal.startsWith ·) || (terminal.splitOn "color").length > 1
    if (environment.lookup "COLORTERM").any (· != "") || terminal != "" && isKnown then some {}
    else none
  | some text => some (read text)

end Colors

end Remedy.Tool.Listing
