import Remedy.Calendar.Layout
import Remedy.Shell.Pattern
import Remedy.Tool.Comparing.Columns
import Remedy.Tool.Comparing.Formats
import Remedy.Tool.Comparing.Hunks
import Remedy.Tool.Comparing.Octets

namespace Remedy.Tool.Comparing

open Unix Files Text.Difference

structure Side where
  path : String
  text : String
  time : Int
  isThere : Bool := true

def isBinary (text : String) : Bool := (text.toList.take 32768).contains '\x00'

/-- When a file was changed, as the header of hunks tells it. -/
def stampOf (isUnified : Bool) (n : Int) : String :=
  Calendar.layout (Calendar.Moment.ofNanoseconds n)
    (if isUnified then "%Y-%m-%d %H:%M:%S.%N %z" else "%a %b %e %T %Y")

/-- Compares two files that have been read; tells whether they differ. -/
def compareTexts (m : Manner) (a b : Side) (opening : String) : Tool Bool := do
  let name (i : Nat) (s : Side) : String := m.labels.getD i s.path
  -- a script cannot tell of a line that is not ended
  if m.style == .script then
    [a, b].forM fun side => do
      if side.text != "" && !side.text.endsWith "\n" then
        complain (side.path ++ ": No newline at end of file\n")
        note 2
  if a.text == b.text then
    if m.style == .columns then
      let lines := linesWithEnds m a.text
      showColumns m { old := lines, new := lines } []
    if m.style == .formatted then
      let lines := linesWithEnds m a.text
      showFormatted m.formats
        { old := lines, new := lines } []
    if m.tellsSame then
      putLine ("Files " ++ name 0 a ++ " and " ++ name 1 b ++ " are identical")
    return false
  else if !m.isText && (isBinary a.text || isBinary b.text) then
    note 1
    putLine ((if m.style == .brief then "Files " else "Binary files ") ++ name 0 a ++ " and " ++
      name 1 b ++ " differ")
    return true
  else
    let lines (text : String) : Array Line :=
      let lines := linesWithEnds m text
      if m.style == .script then lines.map fun l => (l.1, true) else lines
    let old := lines a.text
    let new := lines b.text
    let (x, y) := numbered m old new
    let hasContext := m.style == .unified || m.style == .context
    let all := changes x y (max m.horizon (if hasContext then m.context else 0))
    let s : Sides := { old, new }
    let shown := all.filter (!isIgnored m s ·)
    if shown.isEmpty then
      if m.style == .columns then showColumns m s all
      if m.style == .formatted then showFormatted m.formats s []
      if m.tellsSame then
        putLine ("Files " ++ name 0 a ++ " and " ++ name 1 b ++ " are identical")
      return false
    note 1
    if m.style == .brief then
      putLine ("Files " ++ name 0 a ++ " and " ++ name 1 b ++ " differ")
      return true
    put opening
    match m.style with
    | .normal | .brief => shown.forM (showNormal m s)
    | .script => shown.reverse.forM (showScript s)
    | .forward => shown.forM (showForward s)
    | .columns => showColumns m s all
    | .formatted => showFormatted m.formats s shown
    | .unified | .context =>
      let isUnified := m.style == .unified
      let header (mark : String) (i : Nat) (s : Side) : String :=
        painted m .heading (mark ++ " " ++ match m.labels[i]? with
          | some l => l
          | none => s.path ++ "\t" ++ stampOf isUnified s.time) ++ "\n"
      put (header (if isUnified then "---" else "***") 0 a)
      put (header (if isUnified then "+++" else "---") 1 b)
      (hunks m.context all).forM fun h => do
        if h.any (!isIgnored m s ·) then
          if isUnified then showUnified m s h else showContext m s h
    return true

def readSide (path : String) (mayMiss : Bool) : Tool (Except Errno Side) := do
  let v ← look
  if path == "-" then
    match ← readAll "-" with
    | .ok text => return .ok { path, text, time := v.files.now }
    | .error e => return .error e
  else
    match v.status path true with
    | .error .missing =>
      if mayMiss then return .ok { path, text := "", time := 0, isThere := false }
      else return .error .missing
    | .error e => return .error e
    | .ok s =>
      match ← readAll path with
      | .ok text => return .ok { path, text, time := s.modified }
      | .error e => return .error e

def compareFiles (m : Manner) (a b : String) (opening : String) : Tool Unit := do
  let x ← readSide a (m.takesMissing || m.takesMissingFirst)
  let y ← readSide b m.takesMissing
  let told (path : String) (e : Errno) : Tool Unit := do
    complain (path ++ ": " ++ e.message)
    note 2
  match x, y with
  | .ok x, .ok y =>
    if !x.isThere && !y.isThere then
      told a .missing
      told b .missing
    else let _ ← compareTexts m x y opening
  | .error e, .ok _ => told a e
  | .ok _, .error e => told b e
  | .error e, .error f =>
    told a e
    told b f

def compareDirectories (m : Manner) : Nat → String → String → Tool Unit
  | 0, _, _ => pure ()
  | fuel + 1, a, b => do
    let v ← look
    let names (d : String) : List String := (v.names d).toOption.getD []
    let all := ((names a ++ names b).mergeSort fun s t => decide (s ≤ t)).eraseDups
    let all := all.filter fun name => m.firstName.all (· ≤ name) && !m.excluded.any fun p =>
      Shell.Pattern.accepts (Shell.Pattern.ofString p false) name
    let m := { m with firstName := none }
    for name in all do
      let x := join a name
      let y := join b name
      match (v.status x true).toOption, (v.status y true).toOption with
      | some s, some t =>
        if s.kind == .directory && t.kind == .directory then
          if m.isRecursive then compareDirectories m fuel x y
          else putLine ("Common subdirectories: " ++ x ++ " and " ++ y)
        else if s.kind == t.kind then
          let opening := " ".intercalate (("diff" :: m.words.map quotedWord) ++ [quotedWord x, quotedWord y])
          compareFiles m x y (opening ++ "\n")
        else
          putLine ("File " ++ x ++ " is a " ++ s.kindName ++ " while file " ++ y ++ " is a " ++
            t.kindName)
          note 1
      | some s, none => missing a name s x y fuel m.takesMissing
      | none, some s => missing b name s x y fuel (m.takesMissing || m.takesMissingFirst)
      | none, none => pure ()
where
  missing (directory name : String) (s : Status) (x y : String) (fuel : Nat) (takes : Bool) :
      Tool Unit := do
    if takes then
      if s.kind == .directory then
        if m.isRecursive && fuel > 0 then
          let v ← look
          let inside := match v.names (if v.exists? x then x else y) with
            | .ok names => names
            | .error _ => []
          inside.forM fun n =>
            compareFiles m (join x n) (join y n)
              (" ".intercalate (("diff" :: m.words.map quotedWord) ++ [quotedWord (join x n),
                quotedWord (join y n)]) ++ "\n")
      else
        compareFiles m x y
          (" ".intercalate (("diff" :: m.words.map quotedWord) ++ [quotedWord x, quotedWord y]) ++ "\n")
    else
      putLine ("Only in " ++ directory ++ ": " ++ name)
      note 1

def diffOptions : List Opt :=
  [opt 'q' "brief", opt 's' "report-identical-files", opt 'c' "", opt 'C' "context" .maybe,
    opt 'u' "", opt 'U' "unified" .maybe, opt 'e' "ed", opt 'n' "rcs", opt 'y' "side-by-side",
    opt 'W' "width" .argument, opt 'p' "show-c-function", opt 'F' "show-function-line" .argument,
    opt 't' "expand-tabs", opt 'T' "initial-tab", opt 'l' "paginate", opt 'r' "recursive",
    opt 'N' "new-file", opt 'P' "unidirectional-new-file", opt 'x' "exclude" .argument, opt 'i' "ignore-case",
    opt 'E' "ignore-tab-expansion", opt 'Z' "ignore-trailing-space", opt 'b' "ignore-space-change",
    opt 'w' "ignore-all-space", opt 'B' "ignore-blank-lines", opt 'I' "ignore-matching-lines" .argument,
    opt 'a' "text", opt 'd' "minimal", opt 'H' "", opt 'L' "label" .argument,
    long "strip-trailing-cr", long "left-column", long "suppress-common-lines", long "normal",
    long "no-dereference", long "color" .maybe, long "speed-large-files", long "tabsize" .argument,
    long "horizon-lines" .argument, long "from-file" .argument, long "to-file" .argument,
    opt 'X' "exclude-from" .argument, opt 'S' "starting-file" .argument, opt 'D' "ifdef" .argument,
    long "palette" .argument, long "suppress-blank-empty", long "ignore-file-name-case",
    long "no-ignore-file-name-case"] ++
  (formatOptions.filter (· != "D")).map fun name => long name .argument

/-- `C` and `U` take their argument from the next word where it is not joined to them. -/
def joinCounts : List String → List String
  | [] => []
  | "--" :: rest => "--" :: rest
  | w :: rest =>
    let cs := w.toList
    if cs.head? == some '-' && cs.getD 1 '-' != '-' &&
      (cs.getLast? == some 'C' || cs.getLast? == some 'U') then
      match rest with
      | n :: rest => (w ++ n) :: joinCounts rest
      | [] => [w]
    else w :: joinCounts rest

def manner (g : Given) (words : List String) : Tool Manner := do
  let mut m : Manner := { words }
  let mut chosen : Option Style := none
  for (key, value) in g.options do
    let style : Option Style := match key with
      | "q" => some .brief
      | "c" | "C" => some .context
      | "u" | "U" => some .unified
      | "e" => some .script
      | "n" => some .forward
      | "y" => some .columns
      | "normal" => some .normal
      | "D" | "line-format" | "old-line-format" | "new-line-format" | "unchanged-line-format"
      | "old-group-format" | "new-group-format" | "unchanged-group-format"
      | "changed-group-format" => some .formatted
      | _ => none
    match style with
    | some .brief => pure ()
    | some s =>
      if chosen.any (· ≠ s) then refuse "conflicting output style options"
      chosen := some s
    | none => pure ()
    if (key == "C" || key == "U") && value != "" then
      match natural? value with
      | some n => m := { m with context := n }
      | none => refuse ("invalid context length " ++ quotedAlways value)
    if key == "tabsize" then
      match natural? value with
      | some n =>
        if n = 0 then refuse ("invalid tabsize " ++ quotedAlways value)
        m := { m with tab := n }
      | none => refuse ("invalid tabsize " ++ quotedAlways value)
    if key == "horizon-lines" then
      match natural? value with
      | some n => m := { m with horizon := max m.horizon n }
      | none => refuse ("invalid horizon length " ++ quotedAlways value)
    if key == "color" then
      unless ["", "auto", "always", "never"].contains value do
        refuse ("invalid color " ++ quotedAlways value)
      m := { m with isColoured := value == "always" }
    if key == "X" then
      match ← readAll value with
      | .ok text => m := { m with excluded := m.excluded ++ (linesOf text).1 }
      | .error e => fail 2 (value ++ ": " ++ e.message)
    if key == "S" then m := { m with firstName := some value }
    if key == "W" then
      match natural? value with
      | some n => if n > 0 then m := { m with width := n }
      | none => refuse ("invalid width " ++ quotedAlways value)
    if key == "I" || key == "F" then
      match Regex.read { isExtended := false } value with
      | .ok r =>
        m := if key == "I" then { m with ignored := m.ignored ++ [Regex.compile r] }
          else { m with functions := some (Regex.compile r) }
      | .error e => fail 2 (value ++ ": " ++ e)
  if g.has "p" then
    match Regex.read { isExtended := false } "^[[:alpha:]$_]" with
    | .ok r =>
      m := { m with functions := some (Regex.compile r) }
      if chosen.isNone then chosen := some .context
    | .error _ => pure ()
  let formats ← formatsOf g.options
  if m.isColoured && (g.argument? "palette").any fun text => !text.toList.contains '=' then
    complain "unparsable value for --palette"
    m := { m with isColoured := false }
  let style := if g.has "q" then .brief else chosen.getD .normal
  return { m with
    style
    labels := g.argumentsOf "L"
    ignoresCase := g.has "i"
    mergesBlanks := g.has "b"
    ignoresBlanks := g.has "w"
    ignoresTrailing := g.has "Z"
    ignoresBlankLines := g.has "B"
    stripsReturns := g.has "strip-trailing-cr"
    isText := g.has "a"
    tellsSame := g.has "s"
    isRecursive := g.has "r"
    takesMissing := g.has "N"
    takesMissingFirst := g.has "P"
    formats := formats.getD {}
    hasBareBlanks := g.has "suppress-blank-empty"
    excluded := m.excluded ++ g.argumentsOf "x"
    expandsTabs := g.has "t"
    initialTab := g.has "T"
    leftColumn := g.has "left-column"
    suppressesCommon := g.has "suppress-common-lines" }

def comparePaths (m : Manner) (a b : String) : Tool Unit := do
  let v ← look
  let isDirectory (path : String) : Bool := path != "-" && v.isDirectory path
  if isDirectory a && isDirectory b then compareDirectories m 200 a b
  else if isDirectory a && (b == "-" || v.exists? b) then
    compareFiles m (join a (baseName b)) b ""
  else if isDirectory b && (a == "-" || v.exists? a) then
    compareFiles m a (join b (baseName a)) ""
  else if isDirectory a || isDirectory b then
    let missing := if isDirectory a then b else a
    complain (missing ++ ": " ++ Errno.missing.message)
    note 2
  else compareFiles m a b ""

def diff (words : List String) : Tool Unit := do
  let words := joinCounts words
  let g ← given diffOptions words
  let m ← manner g (words.filter fun w => !g.operands.contains w)
  match g.argument? "from-file", g.argument? "to-file" with
  | some a, _ => g.operands.forM fun b => comparePaths m a b
  | none, some b => g.operands.forM fun a => comparePaths m a b
  | none, none =>
    match g.operands with
    | [a, b] => comparePaths m a b
    | [] => refuse ("missing operand after " ++ quotedAlways (words.getLastD (← get).name))
    | [a] => refuse ("missing operand after " ++ quotedAlways a)
    | _ :: _ :: extra :: _ => refuse ("extra operand " ++ quotedAlways extra)

def catalogue : List (String × (List String → Tool Unit)) := [
  ("cmp", cmp),
  ("diff", diff)]

end Remedy.Tool.Comparing
