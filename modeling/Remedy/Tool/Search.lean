import Remedy.Power
import Remedy.Regex.Matching
import Remedy.Regex.Ordered.Syntax
import Remedy.Shell.Pattern
import Remedy.Tool.Input

namespace Remedy.Tool.Search

open Unix Files

inductive Notation where
  | basic
  | extended
  | fixed
  | perl
deriving DecidableEq, Repr

inductive Pattern where
  | longest (p : Regex.Compiled)
  | ordered (r : Ordered)

def Pattern.search? (p : Pattern) (text : Array Char) (start : Nat) : Option (Nat × Nat) :=
  match p with
  | .longest p => (Regex.search? p {} text start).map fun f => (f.start, f.stop)
  | .ordered r => r.search? text start

def Pattern.occurs (p : Pattern) (text : Array Char) : Bool :=
  match p with
  | .longest p => (Regex.search? p.withoutGroups {} text 0).isSome
  | .ordered r => (r.search? text 0).isSome

structure Plan where
  patterns : List Pattern
  isInverse : Bool := false
  counts : Bool := false
  lists : Option Bool := none
  isQuiet : Bool := false
  showsNames : Bool := false
  showsNumbers : Bool := false
  showsOffsets : Bool := false
  onlyMatching : Bool := false
  noMessages : Bool := false
  isText : Bool := false
  skipsBinary : Bool := false
  endsNames : Bool := false
  most : Option Nat := none
  before : Nat := 0
  after : Nat := 0
  hasContext : Bool := false
  separator : Option String := some "--"
  ending : Char := '\n'
  label : String := "(standard input)"
  isColoured : Bool := false
  width : Option Nat := none

def Plan.coloured (p : Plan) (colour text : String) : String :=
  if p.isColoured then "\x1b[" ++ colour ++ "m\x1b[K" ++ text ++ "\x1b[m\x1b[K" else text

/-- The leftmost match from a place on; of two that begin there the longer one. -/
def find? (ps : List Pattern) (text : Array Char) (start : Nat) : Option (Nat × Nat) :=
  ps.foldl (fun best p =>
    match p.search? text start, best with
    | none, best => best
    | some f, none => some f
    | some f, some (a, b) => if f.1 < a || f.1 = a && f.2 > b then some f else best) none

def isSelected (p : Plan) (line : String) : Bool :=
  let text := line.toList.toArray
  (p.patterns.any fun r => r.occurs text) != p.isInverse

def found (ps : List Pattern) (text : Array Char) : Nat → Nat → List (Nat × Nat)
  | 0, _ => []
  | fuel + 1, start =>
    match find? ps text start with
    | none => []
    | some (a, b) =>
      if b > a then (a, b) :: found ps text fuel b
      else if a < text.size then found ps text fuel (a + 1)
      else []

structure Progress where
  number : Nat := 0
  offset : Nat := 0
  selected : Nat := 0
  /-- Lines before the one at hand that were not shown, the last one first. -/
  waiting : List (Nat × Nat × String) := []
  /-- How many lines are still to be shown behind the last one selected. -/
  owed : Nat := 0
  lastShown : Option Nat := none
  hasShown : Bool := false

def Plan.mark (p : Plan) (mark : Char) : String := p.coloured "36" (String.singleton mark)

def Plan.nameBefore (p : Plan) (name : String) (mark : Char) : String :=
  p.coloured "35" name ++ (if p.endsNames then "\x00" else p.mark mark)

def Plan.front (p : Plan) (name : String) (number offset : Nat) (mark : Char) (isEmpty : Bool) :
    String :=
  let numeral (n : Nat) := p.coloured "32" (padLeft (toString n) (p.width.getD 0)) ++ p.mark mark
  let parts := (if p.showsNames then p.nameBefore name mark else "") ++
    (if p.showsNumbers then numeral number else "") ++
    (if p.showsOffsets then numeral offset else "")
  if p.width.isSome && parts != "" && !isEmpty then parts ++ "\t" else parts

def Plan.withMatches (p : Plan) (line : String) : String :=
  if p.isColoured then
    let text := line.toList.toArray
    let piece (a b : Nat) := String.ofList (text.extract a b).toList
    let (out, last) := (found p.patterns text (text.size + 2) 0).foldl
      (fun (out, last) (a, b) => (out ++ piece last a ++ p.coloured "01;31" (piece a b), b)) ("", 0)
    out ++ piece last text.size
  else line

def Plan.show (p : Plan) (name : String) (q : Progress) (number offset : Nat) (line : String)
    (mark : Char) : Tool Progress := do
  if p.hasContext && q.hasShown && q.lastShown != some (number - 1) then
    match p.separator with
    | some s => putLine (p.coloured "36" s)
    | none => pure ()
  let shown := if (mark == ':') != p.isInverse then p.withMatches line else line
  put ((p.front name number offset mark line.isEmpty ++ shown).push p.ending)
  return { q with lastShown := some number, hasShown := true }

/-- What a line brings; `none` once the file need not be searched further. -/
def Plan.line (p : Plan) (name : String) (q : Progress) (line : String) : Tool (Option Progress) := do
  let q := { q with number := q.number + 1 }
  let here := q.offset
  let q := { q with offset := here + line.length + 1 }
  let isFull := p.most.any (q.selected ≥ ·)
  if !isFull && isSelected p line then
    let q := { q with selected := q.selected + 1 }
    if p.isQuiet || p.lists.isSome then return (if p.isQuiet || p.lists == some true then none else some q)
    else if p.counts then return some q
    else if p.onlyMatching then
      if !p.isInverse then
        let text := line.toList.toArray
        (found p.patterns text (text.size + 2) 0).forM fun (a, b) =>
          put ((p.front name q.number (here + a) ':' false ++
            p.coloured "01;31" (String.ofList (text.extract a b).toList)).push p.ending)
      return some q
    else
      let q ← q.waiting.reverse.foldlM (fun q (n, o, l) => p.show name q n o l '-') q
      let q ← p.show name q q.number here line ':'
      return some { q with waiting := [], owed := p.after }
  else if q.owed > 0 && !p.counts && !p.onlyMatching then
    let q ← p.show name q q.number here line '-'
    return some { q with owed := q.owed - 1 }
  else if isFull then return none
  else
    return some { q with waiting := ((q.number, here, line) :: q.waiting).take p.before }

/-- Searches one input; tells how many lines were selected and where showing has come to. -/
def Plan.search (p : Plan) (name : String) (i : Input) (q : Progress) : Tool (Nat × Progress) := do
  let start : Progress := { lastShown := none, hasShown := q.hasShown }
  let rec go : Nat → Input → Progress → Nat → Tool Progress
    | 0, _, q, _ => return q
    | n + 1, i, q, seen => do
      if p.most.any (q.selected ≥ ·) && q.owed = 0 then return q
      else
        match ← i.next with
        | (none, _) => return q
        | (some (line, _), i) =>
          let before := q.selected
          let isBinary := !p.isText && line.toList.contains '\x00' && p.ending == '\n'
          if isBinary && p.skipsBinary then return { q with selected := 0 }
          else if isBinary && !p.isQuiet && p.lists.isNone && !p.counts then
            -- of what is no text only the fact of a match is told
            let some? ← remains p i line
            if some? then
              putLine ((← get).name ++ ": " ++ name ++ ": binary file matches")
              return { q with selected := before + 1 }
            else return q
          else
            match ← p.line name q line with
            | some q => go n i q (seen + 1)
            | none =>
              return if p.isQuiet || p.lists == some true then { q with selected := before + 1 } else q
  let q ← go Act.limit i start 0
  return (q.selected, q)
where
  remains (p : Plan) (i : Input) (line : String) : Tool Bool := do
    if isSelected p line then return true
    else foldLines i false fun _ line _ => do
      return if isSelected p line then none else some false

/-- What a file brings to the whole: whether lines were selected. -/
def Plan.report (p : Plan) (name : String) (count : Nat) : Tool Unit := do
  let ends := if p.endsNames then "\x00" else "\n"
  if p.counts && p.lists.isNone && !p.isQuiet then
    putLine ((if p.showsNames then p.nameBefore name ':' else "") ++ toString count)
  match p.lists, p.isQuiet with
  | some wanted, false => if (count > 0) == wanted then put (p.coloured "35" name ++ ends)
  | _, _ => pure ()

structure Choice where
  isRecursive : Bool := false
  follows : Bool := false
  included : List String := []
  excluded : List String := []
  excludedDirectories : List String := []
  skipsDirectories : Bool := false

def fits (pattern name : String) : Bool :=
  Shell.Pattern.accepts (Shell.Pattern.ofString pattern false) name

def Choice.allows (c : Choice) (name : String) : Bool :=
  (c.included.isEmpty || c.included.any (fits · name)) && !c.excluded.any (fits · name)

def Choice.below (c : Choice) (v : View) : Nat → String → String → List String
  | 0, _, _ => []
  | depth + 1, path, shown =>
    match v.node path true with
    | .ok (.directory _ entries) =>
      entries.flatMap fun e =>
        let name := Text.Octets.ofList e.1
        let inner := join path name
        let label := if shown == "" then name else join shown name
        match e.2 with
        | .directory .. =>
          if c.excludedDirectories.any (fits · name) then [] else c.below v depth inner label
        | .link _ =>
          if !c.follows then []
          else if v.isDirectory inner then c.below v depth inner label
          else if c.allows name then [label] else []
        | .file _ => if c.allows name then [label] else []
        | _ => []
    | _ => []

def compile (n : Notation) (ignoresCase isWord isLine : Bool) (text : String) :
    Except String Pattern := do
  match n with
  | .perl =>
    let r ← Ordered.read { ignoresCase } text
    let isWordThere (isThere : Bool) (make : Ordered → Ordered) : Ordered :=
      if isThere then make (.set { ranges := CharSet.wordRanges }) else .empty
    return .ordered (
      if isLine then .seq (.anchor .textStart) (.seq r (.anchor .textEnd))
      else .seq (isWordThere isWord (.behind false 1)) (.seq r (isWordThere isWord (.ahead false))))
  | _ =>
    let r ← match n with
      | .fixed => .ok (Regex.literal text)
      | .basic => Regex.read { isExtended := false, isLenient := true } text
      | _ => Regex.read { isExtended := true, isLenient := true } text
    let r := if ignoresCase then r.ignoringCase else r
    let r := if isLine then .seq (.anchor .textStart) (.seq r (.anchor .textEnd))
      else if isWord then .seq (.anchor .notAfterWord) (.seq r (.anchor .notBeforeWord))
      else r
    return .longest (Regex.compile r)

def startOperator (n : Notation) (text : String) : Option String :=
  let rec go : List Char → Bool → Option String
    | [], _ => none
    | '\\' :: _ :: rest, _ => go rest false
    | c :: rest, atStart =>
      if atStart && (c == '*' || c == '+' || c == '?') then some (String.singleton c)
      else if atStart && c == '\x7b' && (Regex.bounds? true rest).isSome then
        some "\x7b...\x7d"
      else if c == '[' then none
      else go rest (c == '(' || c == '|' || (c == '^' && atStart))
  if n == .extended then go text.toList true else none

def options : List Opt :=
  letters "EFGPywxsvbnHhoqaIrRlLcTZz" ++
  [opt 'E' "extended-regexp", opt 'F' "fixed-strings", opt 'G' "basic-regexp",
    opt 'P' "perl-regexp", opt 'e' "regexp" .argument, opt 'f' "file" .argument,
    opt 'i' "ignore-case", opt 'w' "word-regexp", opt 'x' "line-regexp", opt 'z' "null-data",
    opt 's' "no-messages", opt 'v' "invert-match", opt 'm' "max-count" .argument,
    opt 'b' "byte-offset", opt 'n' "line-number", opt 'H' "with-filename", opt 'h' "no-filename",
    long "label" .argument, opt 'o' "only-matching", opt 'q' "quiet", opt 'a' "text",
    long "binary-files" .argument, opt 'd' "directories" .argument, opt 'D' "devices" .argument,
    opt 'r' "recursive", opt 'R' "dereference-recursive", long "include" .argument,
    long "exclude" .argument, long "exclude-dir" .argument, opt 'L' "files-without-match",
    opt 'l' "files-with-matches", opt 'c' "count", opt 'T' "initial-tab", opt 'Z' "null",
    opt 'A' "after-context" .argument, opt 'B' "before-context" .argument,
    opt 'C' "context" .argument, long "color" .maybe, long "colour" .maybe,
    opt 'U' "binary", long "line-buffered", long "silent", long "no-ignore-case", long "group-separator" .argument,
    long "no-group-separator", long "exclude-from" .argument]

/-- A dash and digits stand for lines of context on both sides. -/
def contextWord (w : String) : String :=
  match w.toList with
  | '-' :: c :: cs => if (c :: cs).all Char.isDigit then String.ofList ('-' :: 'C' :: c :: cs) else w
  | _ => w

def badUsage : Tool Unit := do
  writeError "Usage: grep [OPTION]... PATTERNS [FILE]...\nTry 'grep --help' for more information.\n"
  setStatus 2
  stop

def patternsOf (g : Given) : Tool (List String × List String) := do
  let given := g.options.filter fun o => o.1 == "e" || o.1 == "f"
  if given.isEmpty then
    match g.operands with
    | [] =>
      badUsage
      return ([], [])
    | p :: rest => return (p.splitOn "\n", rest)
  else
    let texts ← given.mapM fun (key, argument) => do
      if key == "e" then return argument.splitOn "\n"
      else
        match ← readAll argument with
        | .ok text => return (linesOf text).1
        | .error e => fail 2 (argument ++ ": " ++ e.message)
    return (texts.flatten, g.operands)

def grep (words : List String) : Tool Unit := do
  let g ← match readOptions options false (words.length + 1) (words.map contextWord) with
    | .ok g => pure g
    | .error e => do
      complain e.message
      badUsage
      pure {}
  let ways := (g.options.map (·.1)).filter ["E", "F", "G", "P"].contains
  if ways.any (· != ways.headD "") then fail 2 "conflicting matchers specified"
  let way : Notation := match g.last? ["E", "F", "G", "P"] with
    | some "E" => .extended
    | some "F" => .fixed
    | some "P" => .perl
    | some _ => .basic
    | none => .basic
  let mut listed : List String := []
  for (key, value) in g.options do
    match key with
    | "binary-files" =>
      unless ["binary", "text", "without-match"].contains value do
        fail 2 "unknown binary-files type"
    | "D" => unless value == "read" || value == "skip" do fail 2 "unknown devices method"
    | "d" =>
      unless ["read", "recurse", "skip"].any (·.startsWith value) do
        complain ("invalid argument " ++ marked value ++ " for " ++ marked "--directories")
        writeError "Valid arguments are:\n  - 'read'\n  - 'recurse'\n  - 'skip'\n"
        badUsage
    | "exclude-from" =>
      match ← readAll value with
      | .ok text => listed := listed ++ (linesOf text).1
      | .error e => fail 2 (value ++ ": " ++ e.message)
    | _ => pure ()
  let number (key : String) : Tool (Option Nat) := do
    match g.argument? key with
    | none => return none
    | some text =>
      match natural? text with
      | some n => return some n
      | none =>
        if key == "m" then
          if text.startsWith "-" then return none else fail 2 "invalid max count"
        else fail 2 (text ++ ": invalid context length argument")
  let both ← number "C"
  let before := (← number "B").orElse fun _ => both
  let after := (← number "A").orElse fun _ => both
  let most ← number "m"
  let (texts, operands) ← patternsOf g
  if way == .perl && texts.length ≠ 1 then fail 2 "the -P option only supports a single pattern"
  let ignores := (g.has "i" || g.has "y") && g.last? ["i", "y", "no-ignore-case"] != some "no-ignore-case"
  let patterns ← texts.mapM fun text => do
    if way != .fixed && way != .perl && Regex.hasBareClass text.toList then fail 2 Regex.bareClass
    match startOperator way text with
    | some what => complain ("warning: " ++ what ++ " at start of expression")
    | none => pure ()
    match compile way ignores (g.has "w") (g.has "x") text with
    | .ok p => pure p
    | .error message => fail 2 message
  let isRecursive := g.has "r" || g.has "R" || g.argument? "d" == some "recurse"
  let excluded := g.argumentsOf "exclude" ++ listed
  let choice : Choice := {
    isRecursive
    follows := g.has "R"
    included := g.argumentsOf "include"
    excluded
    excludedDirectories := g.argumentsOf "exclude-dir"
    skipsDirectories := g.argument? "d" == some "skip" }
  let isQuiet := g.has "q" || g.has "silent"
  let v ← look
  let files : List String :=
    if operands.isEmpty then if isRecursive then choice.below v 4096 "." "" else ["-"]
    else
      operands.flatMap fun path =>
        if path != "-" && isRecursive && v.isDirectory path then
          if choice.excludedDirectories.any fun d => fits d (baseName path) then []
          else choice.below v 4096 path path
        else if !choice.included.isEmpty && path != "-" &&
          !choice.included.any (fun d => fits d (baseName path)) then []
        else if choice.excluded.any fun d => fits d path || fits d (baseName path) then []
        else [path]
  let showsNames := match g.last? ["H", "h"] with
    | some "H" => true
    | some _ => false
    | none => operands.length > 1 || isRecursive && (operands.isEmpty ||
        operands.any fun path => v.isDirectory path)
  let p : Plan := {
    patterns
    isInverse := g.has "v"
    counts := g.has "c"
    lists := match g.last? ["l", "L"] with
      | some "l" => some true
      | some _ => some false
      | none => none
    isQuiet
    showsNames
    showsNumbers := g.has "n"
    showsOffsets := g.has "b"
    onlyMatching := g.has "o"
    noMessages := g.has "s"
    isText := g.has "a" || g.argument? "binary-files" == some "text"
    skipsBinary := g.has "I" || g.argument? "binary-files" == some "without-match"
    endsNames := g.has "Z"
    most
    before := before.getD 0
    after := after.getD 0
    hasContext := (before.isSome || after.isSome) && !g.has "o"
    separator := if g.has "no-group-separator" then none
      else some ((g.argument? "group-separator").getD "--")
    ending := if g.has "z" then '\x00' else '\n'
    label := (g.argument? "label").getD "(standard input)"
    isColoured := g.argument? "color" == some "always" || g.argument? "colour" == some "always" }
  let output : Option Nat := match v.descriptors.lookup 1 with
    | some (.file n) => some n
    | _ => none
  let problem (path : String) (message : String) : Tool Bool := do
    unless p.noMessages do complain (path ++ ": " ++ message)
    return true
  let rec go : List String → Progress → Bool → Bool → Tool (Bool × Bool)
    | [], _, hit, bad => return (hit, bad)
    | path :: rest, q, hit, bad => do
      if hit && p.isQuiet then return (hit, bad)
      else
        let name := if path == "-" then p.label else path
        let v ← look
        let source := if path == "-" then "/dev/stdin" else path
        let status := v.status source true
        match (if path == "-" then .ok 0 else status.map fun _ => 1 : Except Errno Nat) with
        | .error e =>
          let b ← problem path e.message
          go rest q hit (bad || b)
        | .ok _ =>
          let kind := status.toOption.map (·.kind)
          if kind == some .directory && choice.skipsDirectories then go rest q hit bad
          else if kind == some .directory then
            let b ← problem name Errno.isDirectory.message
            go rest q hit (bad || b)
          else if path != "-" && kind == some .regular && output.isSome && !p.isQuiet &&
              p.lists.isNone && !(p.most.any (· ≤ 1)) &&
              status.toOption.map (·.inode) == output then
            let b ← problem name "input file is also the output"
            go rest q hit (bad || b)
          else
            let i := { Input.ofPaths [path] with
              separator := p.ending, status := 2, complaint := fun path e => path ++ ": " ++ e.message }
            let size := match status.toOption with
              | some s => if s.kind = .regular then s.size else twoTo 62
              | none => twoTo 62
            let width := (toString (size + if p.showsNumbers then 1 else 0)).length
            let p := if g.has "T" then { p with width := some width } else p
            let (count, q) ← if p.most == some 0 then pure (0, q) else p.search name i q
            p.report name count
            go rest q (hit || count > 0) bad
  let (hit, bad) ← go files {} false false
  let bad := bad || (← get).status ≥ 2
  setStatus (if hit && p.isQuiet then 0 else if bad then 2 else if hit then 0 else 1)

def catalogue : List (String × (List String → Tool Unit)) := [
  ("grep", grep), ("egrep", grepWith "-E"), ("fgrep", grepWith "-F")]
where
  grepWith (option : String) (words : List String) : Tool Unit := do
    modify ({ · with name := "grep" })
    grep (option :: words)

end Remedy.Tool.Search
