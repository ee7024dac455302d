import Remedy.Text.Version
import Remedy.Tool.Amount

namespace Remedy.Tool.Listing

open Unix Files

inductive Shape where
  | one
  | columns
  | across
  | commas
  | long
deriving DecidableEq, Repr

inductive Order where
  | name
  | time
  | size
  | ending
  | version
  | width
  | unsorted
deriving DecidableEq, Repr

inductive Quoting where
  | literal
  | shell (always : Bool)
  | shellEscape (always : Bool)
  | text
  | textIfNeeded
  | escape
  | marked
deriving DecidableEq, Repr

inductive Marking where
  | nothing
  | directories
  | kinds
  | all
deriving DecidableEq, Repr

inductive Following where
  | always
  | operands
  | operandsToDirectories
  | never
deriving DecidableEq, Repr

inductive Omission where
  | hidden
  | dots
  | nothing
deriving DecidableEq, Repr

structure Plan where
  shape : Shape := .one
  order : Option Order := none
  omits : Omission := .hidden
  quoting : Quoting := .literal
  marking : Marking := .nothing
  following : Option Following := none
  namesTime : Bool := false
  isReversed : Bool := false
  isRecursive : Bool := false
  showsDirectories : Bool := false
  showsInodes : Bool := false
  showsBlocks : Bool := false
  showsContext : Bool := false
  showsAuthor : Bool := false
  isNumeric : Bool := false
  hidesOwner : Bool := false
  hidesGroup : Bool := false
  hidesControls : Bool := false
  directoriesFirst : Bool := false
  hasColors : Bool := false
  countsKilobytes : Bool := false
  ignored : List String := []
  ignoredByDefault : List String := []
  timeStyle : Option String := none
  blockAmount : Option Amount := none
  sizeAmount : Amount := .octets
  width : Option Nat := none
  tab : Nat := 8
  finish : String := "\n"

def occasions : List (List String) :=
  [["always", "yes", "force"], ["never", "no", "none"], ["auto", "tty", "if-tty"]]

/-- Whether something is done always; no output is a terminal here. -/
def isAlways (context argument : String) : Tool Bool := do
  if argument == "" then return true
  else return (← choose context occasions argument) == "always"

/-- A number in the base that its first digits tell, without a suffix. -/
def plainNumber (complaint text : String) : Tool Nat := do
  let cs := text.toList
  let inBase (base : Nat) (isDigit : Char → Bool) (cs : List Char) : Option Nat :=
    if !cs.isEmpty && cs.all isDigit then
      some (cs.foldl (fun n c =>
        base * n + (if c.isDigit then c.toNat - 48 else c.toLower.toNat - 87)) 0)
    else none
  let isHexadecimal (c : Char) : Bool := c.isDigit || ('a' ≤ c.toLower && c.toLower ≤ 'f')
  let value := match cs with
    | '0' :: 'x' :: rest | '0' :: 'X' :: rest => inBase 16 isHexadecimal rest
    | '0' :: rest => if rest.isEmpty then some 0 else inBase 8 (fun c => '0' ≤ c && c ≤ '7') rest
    | cs => inBase 10 Char.isDigit cs
  match value with
  | some n => return n
  | none => fail 2 (complaint ++ ": " ++ marked text)

def quotingOf (word : String) : Quoting :=
  match word with
  | "shell" => .shell false
  | "shell-always" => .shell true
  | "shell-escape" => .shellEscape false
  | "shell-escape-always" => .shellEscape true
  | "c" | "clocale" => .text
  | "c-maybe" => .textIfNeeded
  | "escape" => .escape
  | "locale" => .marked
  | _ => .literal

def quotings : List (List String) :=
  [["literal"], ["shell"], ["shell-always"], ["shell-escape"], ["shell-escape-always"], ["c"],
    ["c-maybe"], ["escape"], ["locale"], ["clocale"]]

def Plan.take (p : Plan) (key argument : String) : Tool Plan := do
  match key with
  | "1" => return { p with shape := if p.shape == .long then .long else .one }
  | "C" => return { p with shape := .columns }
  | "x" => return { p with shape := .across }
  | "m" => return { p with shape := .commas }
  | "l" => return { p with shape := .long }
  | "g" => return { p with shape := .long, hidesOwner := true }
  | "o" => return { p with shape := .long, hidesGroup := true }
  | "n" => return { p with shape := .long, isNumeric := true }
  | "full-time" => return { p with shape := .long, timeStyle := some "full-iso" }
  | "format" =>
    match ← choose "--format" [["verbose", "long"], ["commas"], ["horizontal", "across"],
      ["vertical"], ["single-column"]] argument with
    | "verbose" => return { p with shape := .long }
    | "commas" => return { p with shape := .commas }
    | "horizontal" => return { p with shape := .across }
    | "vertical" => return { p with shape := .columns }
    | _ => return { p with shape := .one }
  | "t" => return { p with order := some .time }
  | "S" => return { p with order := some .size }
  | "X" => return { p with order := some .ending }
  | "v" => return { p with order := some .version }
  | "U" => return { p with order := some .unsorted }
  | "f" => return { p with order := some .unsorted, omits := .nothing }
  | "sort" =>
    let order : Order := match ← choose "--sort" [["none"], ["time"], ["size"], ["extension"],
      ["version"], ["width"]] argument with
      | "none" => .unsorted
      | "time" => .time
      | "size" => .size
      | "extension" => .ending
      | "version" => .version
      | _ => .width
    return { p with order := some order }
  | "a" => return { p with omits := .nothing }
  | "A" => return { p with omits := .dots }
  | "c" | "u" => return { p with namesTime := true }
  | "time" =>
    let _ ← choose "--time" [["atime", "access", "use"], ["ctime", "status"],
      ["mtime", "modification"], ["birth", "creation"]] argument
    return { p with namesTime := true }
  | "r" => return { p with isReversed := true }
  | "R" => return { p with isRecursive := true }
  | "d" => return { p with showsDirectories := true }
  | "F" => return { p with marking := .all }
  | "classify" =>
    if ← isAlways "--classify" argument then return { p with marking := .all } else return p
  | "file-type" => return { p with marking := .kinds }
  | "p" => return { p with marking := .directories }
  | "indicator-style" =>
    match ← choose "--indicator-style" [["none"], ["slash"], ["file-type"], ["classify"]]
      argument with
    | "slash" => return { p with marking := .directories }
    | "file-type" => return { p with marking := .kinds }
    | "classify" => return { p with marking := .all }
    | _ => return { p with marking := .nothing }
  | "i" => return { p with showsInodes := true }
  | "s" => return { p with showsBlocks := true }
  | "Z" => return { p with showsContext := true }
  | "author" => return { p with showsAuthor := true }
  | "G" => return { p with hidesGroup := true }
  | "h" => return { p with blockAmount := some (.human 1024), sizeAmount := .human 1024 }
  | "si" => return { p with blockAmount := some (.human 1000), sizeAmount := .human 1000 }
  | "k" => return { p with countsKilobytes := true }
  | "block-size" =>
    match Amount.read argument with
    | .ok a => return { p with blockAmount := some a, sizeAmount := a }
    | .error m => refuseSize "--block-size" argument m 2
  | "L" => return { p with following := some .always }
  | "H" => return { p with following := some .operands }
  | "dereference-command-line-symlink-to-dir" =>
    return { p with following := some .operandsToDirectories }
  | "Q" => return { p with quoting := .text }
  | "b" => return { p with quoting := .escape }
  | "N" => return { p with quoting := .literal }
  | "quoting-style" =>
    return { p with quoting := quotingOf (← choose "--quoting-style" quotings argument) }
  | "q" => return { p with hidesControls := true }
  | "show-control-chars" => return { p with hidesControls := false }
  | "group-directories-first" => return { p with directoriesFirst := true }
  | "color" => return { p with hasColors := ← isAlways "--color" argument }
  | "hyperlink" =>
    let _ ← isAlways "--hyperlink" argument
    return p
  | "I" => return { p with ignored := argument :: p.ignored }
  | "B" => return { p with ignored := "*~" :: ".*~" :: p.ignored }
  | "hide" => return { p with ignoredByDefault := argument :: p.ignoredByDefault }
  | "time-style" => return { p with timeStyle := some argument }
  | "w" => return { p with width := some (← plainNumber "invalid line width" argument) }
  | "T" => return { p with tab := ← plainNumber "invalid tab size" argument }
  | "zero" =>
    return { p with
      finish := "\x00", hidesControls := false, hasColors := false, quoting := .literal
      shape := if p.shape == .long then .long else .one }
  | _ => return p

def options : List Opt :=
  letters "1CxlgomtSXvUfpkcuZD" ++
  [opt 'a' "all", opt 'A' "almost-all", opt 'd' "directory", opt 'i' "inode", opt 's' "size",
    opt 'h' "human-readable", opt 'B' "ignore-backups",
    opt 'I' "ignore" .argument, opt 'w' "width" .argument, opt 'T' "tabsize" .argument,
    opt 'r' "reverse", opt 'R' "recursive", opt 'L' "dereference",
    opt 'H' "dereference-command-line", opt 'n' "numeric-uid-gid", opt 'G' "no-group",
    opt 'Q' "quote-name", opt 'b' "escape", opt 'N' "literal", opt 'q' "hide-control-chars",
    opt 'F' "", long "classify" .maybe, opt 'Z' "context", opt 'k' "kibibytes", opt 'D' "dired",
    long "color" .maybe, long "hide" .argument, long "sort" .argument, long "format" .argument,
    long "time-style" .argument, long "full-time", long "group-directories-first", long "zero",
    long "indicator-style" .argument, long "file-type", long "quoting-style" .argument,
    long "time" .argument, long "show-control-chars", long "si", long "block-size" .argument,
    long "author", long "dereference-command-line-symlink-to-dir", long "hyperlink" .maybe]

def timeStyles : List String := ["full-iso", "long-iso", "iso", "locale"]

/-- Makes sure that the style of the times is one; `none` is the usual one. -/
def timeStyle (style : Option String) : Tool (Option String) := do
  match style with
  | none => return none
  | some text =>
    if text.startsWith "posix-" then return none
    else if text.startsWith "+" then return some text
    else
      match timeStyles.filter (·.startsWith text) with
      | [style] => return some style
      | found =>
        if found.contains text then return some text
        else
          complain ((if found.isEmpty then "invalid" else "ambiguous") ++ " argument " ++
            marked text ++ " for 'time style'")
          writeError ("Valid arguments are:\n" ++ String.join (timeStyles.map fun style =>
            "  - [posix-]" ++ style ++ "\n") ++
            "  - +FORMAT (e.g., +%H:%M) for a 'date'-style format\n")
          writeError ("Try '" ++ (← get).name ++ " --help' for more information.\n")
          setStatus 2
          stop

def shaping : List String :=
  ["1", "C", "x", "m", "l", "g", "o", "n", "full-time", "format", "zero"]

def plan (g : Given) (shape : Shape) (quoting : Quoting) : Tool Plan := do
  let environment := (← get).environment
  let quoting := (environment.lookup "QUOTING_STYLE").filter
    (fun word => quotings.contains [word]) |>.elim quoting quotingOf
  let p ← g.options.foldlM (fun p (key, argument) => Plan.take p key argument)
    ({ quoting } : Plan)
  let p := if g.options.any fun (key, _) => shaping.contains key then p else { p with shape }
  let named := Amount.ofVariables environment ["LS_BLOCK_SIZE", "BLOCK_SIZE", "BLOCKSIZE"]
  let hasSizes := ["LS_BLOCK_SIZE", "BLOCK_SIZE"].any fun name => environment.any (·.1 == name)
  let usual : Amount := if environment.any (·.1 == "POSIXLY_CORRECT") then { unit := 512 } else {}
  let style ← if p.shape == .long then
      timeStyle (p.timeStyle.orElse fun _ => environment.lookup "TIME_STYLE")
    else pure none
  return { p with
    timeStyle := style
    blockAmount := p.blockAmount.getD
      (if p.countsKilobytes then {} else named.getD usual)
    sizeAmount := if p.blockAmount.isNone && hasSizes then named.getD .octets else p.sizeAmount
    order := p.order.getD (if p.namesTime && p.shape != .long then .time else .name)
    following := p.following.getD
      (if p.showsDirectories || p.marking == .all || p.shape == .long then .never
        else .operandsToDirectories)
    width := p.width.getD (((environment.lookup "COLUMNS").bind natural?).getD 80) }

end Remedy.Tool.Listing
