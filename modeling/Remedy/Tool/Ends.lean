import Remedy.Decimal.Quantity
import Remedy.Tool.Input

namespace Remedy.Tool.Ends

open Unix Files Decimal

structure Amount where
  isLines : Bool := true
  count : Nat := 10
  isInverse : Bool := false

def endOptions : List Opt :=
  [opt 'n' "lines" .argument, opt 'c' "bytes" .argument,
    { letter := some 'q', names := ["quiet", "silent"] }, opt 'v' "verbose",
    opt 'z' "zero-terminated"]

/-- Reads the amount that is wanted of every file; a mark in front of any number given turns it
around. -/
def amount (g : Given) (inverseMark : Char) : Tool Amount := do
  let mut isInverse := false
  let mut a : Amount := {}
  for (key, w) in g.options do
    if key == "n" || key == "c" then
      let cs := w.toList
      let marked := cs.head? == some inverseMark
      let text := if cs.head? == some '-' || marked then String.ofList (cs.drop 1) else w
      -- a mark of the end counts for the number behind it alone
      isInverse := marked || isInverse && inverseMark == '+'
      let count ← numberIn
        ("invalid number of " ++ (if key == "n" then "lines" else "bytes")) sizeLetters 0
        (twoTo 64 - 1) text
      a := { isLines := key == "n", count, isInverse }
  return a

def hasHeadings (g : Given) (paths : List String) : Bool :=
  match g.last? ["q", "v"] with
  | some "q" => false
  | some _ => true
  | none => paths.length > 1

def heading (isFirst : Bool) (name : String) : String :=
  (if isFirst then "" else "\n") ++ "==> " ++ name ++ " <==\n"

def nameOf (path : String) : String := if path == "-" then "standard input" else path

def withoutEnd (a : Amount) (separator : Char) (text : String) : String :=
  if a.isLines then
    let (lines, isEnded) := linesOf text separator
    let n := lines.length - a.count
    unlines (lines.take n) (isEnded || n < lines.length) (String.singleton separator)
  else String.ofList (text.toList.take (text.length - a.count))

def lastPart (a : Amount) (separator : Char) (text : String) : String :=
  if a.isLines then
    let (lines, isEnded) := linesOf text separator
    let start := if a.isInverse then a.count - 1 else lines.length - a.count
    unlines (lines.drop start) isEnded (String.singleton separator)
  else
    let start := if a.isInverse then a.count - 1 else text.length - a.count
    String.ofList (text.toList.drop start)

def firstOctets (fd count : Nat) : Tool (Option Errno) := do
  flush
  act (Act.repeatUntil (fun (left : Nat) => do
    if left = 0 then return .inr none
    else
      match ← Act.ask (.read fd (min left Act.block)) with
      | .error e => return .inr (some e)
      | .ok data =>
        if data.isEmpty then return .inr none
        else
          let _ ← Act.ask (.write 1 data)
          return .inl (left - data.size)) (fun _ => none) Act.limit count)

/-- Shows so many lines of a descriptor; what was read beyond them is given back if that can be. -/
def firstLines (fd : Nat) (separator : Char) (count : Nat) : Tool (Option Errno) := do
  flush
  act (Act.repeatUntil (fun (left : Nat) => do
    if left = 0 then return .inr none
    else
      match ← Act.ask (.read fd 8192) with
      | .error e => return .inr (some e)
      | .ok data =>
        if data.isEmpty then return .inr none
        else
          let text := Text.Octets.ofBytes data
          let lines := text.splitOn (String.singleton separator)
          if lines.length - 1 < left then
            let _ ← Act.ask (.write 1 data)
            return .inl (left - (lines.length - 1))
          else
            let shown := unlines (lines.take left) true (String.singleton separator)
            let _ ← Act.writeTo 1 shown
            let beyond : Int := data.size - shown.length
            let _ ← Act.ask (.seek fd (-beyond) .current)
            return .inr none) (fun _ => none) Act.limit count)

/-- The words with an old way to give a number, a dash with digits and letters, in the new one. -/
def newStyle (words : List String) : Tool (List String) := do
  match words with
  | w :: rest =>
    match w.toList with
    | '-' :: c :: cs =>
      if c.isDigit then
        let digits := (c :: cs).takeWhile Char.isDigit
        let letters := (c :: cs).drop digits.length
        match letters.find? fun c => !"cbkmlqvz".toList.contains c with
        | some c => refuse 1 ("invalid trailing option -- " ++ String.singleton c)
        | none =>
          let kinds := letters.filter "cbkml".toList.contains
          let key := if (kinds.getLast?).any (· != 'l') then "-c" else "-n"
          let unit := match kinds.getLast? with
            | some 'b' => "b"
            | some 'k' => "k"
            | some 'm' => "m"
            | _ => ""
          let others := (letters.filter "qvz".toList.contains).map fun c =>
            String.ofList ['-', c]
          return [key, String.ofList digits ++ unit] ++ others ++ rest
      else return words
    | _ => return words
  | [] => return []

def digitOption? (withArgument : List Char) : List String → Option Char
  | [] => none
  | "--" :: _ => none
  | w :: rest =>
    match w.toList with
    | '-' :: '-' :: _ => digitOption? withArgument rest
    | '-' :: cs =>
      let read := cs.takeWhile fun c => !withArgument.contains c
      match read.find? Char.isDigit with
      | some c => some c
      | none =>
        -- an argument may stand in the next word
        if read.length + 1 = cs.length then digitOption? withArgument (rest.drop 1)
        else digitOption? withArgument rest
    | _ => digitOption? withArgument rest
termination_by words => words.length

def head (words : List String) : Tool Unit := do
  let words ← newStyle words
  match digitOption? ['n', 'c'] words with
  | some c => refuse 1 ("invalid trailing option -- " ++ String.singleton c)
  | none => pure ()
  let g ← given endOptions words
  let a ← amount g '-'
  let separator := if g.has "z" then '\x00' else '\n'
  let paths := if g.operands.isEmpty then ["-"] else g.operands
  let headings := hasHeadings g paths
  let rec go : List String → Bool → Tool Unit
    | [], _ => return
    | path :: rest, isFirst => do
      let opened ← if path == "-" then pure (.ok 0) else sys (.open path .input)
      match opened with
      | .error e =>
        complain ("cannot open " ++ quotedAlways path ++ " for reading: " ++ e.message)
        note 1
        go rest isFirst
      | .ok fd =>
        if headings then put (heading isFirst (nameOf path))
        let problem ←
          if a.isInverse then
            match ← act (Act.readAll fd) with
            | .ok text =>
              put (withoutEnd a separator text)
              pure none
            | .error e => pure (some e)
          -- no more of a file is taken than is shown
          else if a.isLines then firstLines fd separator a.count
          else firstOctets fd a.count
        if fd ≠ 0 then
          let _ ← sys (.close fd)
        match problem with
        | some e =>
          complain ("error reading " ++ quotedAlways (nameOf path) ++ ": " ++ e.message)
          note 1
        | none => pure ()
        go rest false
  go paths true

structure Followed where
  path : String
  descriptor : Option Nat
  inode : Option Nat := none

structure Plan where
  byName : Bool
  /-- Whether files that cannot be opened are tried again. -/
  retries : Bool
  headings : Bool
  until? : Option Nat

/-- The time between two looks at the files that are followed. -/
def interval : Nat := 10000000

def contentOf (v : View) (fd : Nat) : Option (Nat × Nat) :=
  match v.descriptors.lookup fd with
  | some (.file n) => some (n, (v.files.inode n).content.size)
  | _ => none

/-- Opens a file again that is followed by its name, if there is another one under it now. -/
def reopened (p : Plan) (f : Followed) : Tool Followed := do
  if !p.byName || f.path == "-" then return f
  else
    match (← look).status f.path true, f.descriptor with
    | .ok s, some fd =>
      if f.inode == some s.inode then return f
      else
        match ← sys (.open f.path .input) with
        | .ok new =>
          let _ ← sys (.close fd)
          complain (quotedAlways f.path ++ " has been replaced;  following new file")
          return { f with descriptor := some new, inode := some s.inode }
        | .error _ => return f
    | .ok s, none =>
      match ← sys (.open f.path .input) with
      | .ok new =>
        complain (quotedAlways f.path ++ " has appeared;  following new file")
        return { f with descriptor := some new, inode := some s.inode }
      | .error _ => return f
    | .error e, some fd =>
      let _ ← sys (.close fd)
      complain (quotedAlways f.path ++ " has become inaccessible: " ++ e.message)
      return { f with descriptor := none, inode := none }
    | .error _, none => return f

/-- Shows what is new in a file; tells which file was shown last. -/
def showNew (p : Plan) (f : Followed) (last : Option String) : Tool (Option String) := do
  match f.descriptor with
  | none => return last
  | some fd =>
    match contentOf (← look) fd, ← sys (.seek fd 0 .current) with
    | some (_, size), .ok place =>
      if size < place then
        complain (quoted (nameOf f.path) ++ ": file truncated")
        let _ ← sys (.seek fd 0 .start)
    | _, _ => pure ()
    match ← act (Act.readAll fd) with
    | .ok "" | .error _ => return last
    | .ok text =>
      if p.headings && last != some f.path then put (heading false (nameOf f.path))
      put text
      flush
      return some f.path

def follow (p : Plan) : Nat → List Followed → Option String → Tool Unit
  | 0, _, _ => return
  | n + 1, files, last => do
    let isOver ← match p.until? with
      | some pid => do
        match ← sys (.kill pid 0) with
        | .ok _ => pure false
        | .error _ => pure true
      | none => pure false
    let files ← files.mapM (reopened p)
    let last ← files.foldlM (fun last f => showNew p f last) last
    if isOver then return
    else if !p.retries && files.all (·.descriptor.isNone) then
      complain "no files remaining"
      setStatus 1
    else
      -- nothing written finds out whether anybody reads
      match ← sys (.write 1 .empty) with
      | .ok _ =>
        sys (.sleep interval)
        follow p n files last
      | .error _ => return

/-- The words with an old way to give a number, which is only known with one file at most. -/
def withoutOldNumber (words : List String) : List String :=
  let isAlone := match words with
    | [_] => true
    | [_, "--"] | [_, "--", _] => true
    | [_, f] => !(f.startsWith "-" && f.length > 1)
    | _ => false
  match words with
  | w :: rest =>
    if !isAlone then words
    else
      match w.toList with
      | mark :: cs =>
        let digits := cs.takeWhile Char.isDigit
        let letters := cs.drop digits.length
        let (kind, letters) := match letters with
          | 'b' :: rest => (some 'b', rest)
          | 'c' :: rest => (some 'c', rest)
          | 'l' :: rest => (some 'l', rest)
          | letters => (none, letters)
        let isNumber := (mark == '+' || mark == '-') && (letters.isEmpty || letters == ['f']) &&
          !(mark == '-' && (cs.isEmpty || cs == ['c'] || cs == ['f'])) &&
          (mark == '+' || !digits.isEmpty || kind.isSome)
        if !isNumber then words
        else
          let number := if digits.isEmpty then "10" else String.ofList digits
          let amount := (if mark == '+' then "+" else "") ++ number ++
            (if kind == some 'b' then "b" else "")
          [if kind == some 'b' || kind == some 'c' then "-c" else "-n", amount] ++
            (if letters.isEmpty then [] else ["-f"]) ++ rest
      | [] => words
  | [] => []

def plan? (g : Given) (headings : Bool) : Tool (Option Plan) := do
  let manner ← choiceOf g "f" "--follow" [["descriptor"], ["name"]]
  let _ ← match g.argument? "s" with
    | some text =>
      match Quantity.read? text.toList with
      | some (.ratio .., []) => pure ()
      | _ => fail 1 ("invalid number of seconds: " ++ marked text)
    | none => pure ()
  let _ ← match g.argument? "max-unchanged-stats" with
    | some text => do
      let _ ← numberIn "invalid maximum number of unchanged stats between opens" "" 0
        (twoTo 63) text
    | none => pure ()
  let pid? ← match g.argument? "pid" with
    | some text => some <$> numberIn "invalid PID" "" 0 2147483647 text
    | none => pure none
  if g.has "f" || g.has "F" then
    let byName := match g.last? ["f", "F"] with
      | some "F" => true
      | _ => manner == some "name"
    return some { byName, retries := g.has "F" || g.has "retry", headings, until? := pid? }
  else
    if pid?.isSome then
      complain "warning: PID ignored; --pid=PID is useful only when following"
    if g.has "retry" then
      complain "warning: --retry ignored; --retry is useful only when following"
    return none

def tail (words : List String) : Tool Unit := do
  let words := withoutOldNumber words
  match digitOption? ['n', 'c', 's'] words with
  | some c => fail 1 ("option used in invalid context -- " ++ String.singleton c)
  | none => pure ()
  let g ← given (endOptions ++ [{ letter := some 'f' }, long "follow" .maybe, opt 'F' "",
    opt 's' "sleep-interval" .argument, long "pid" .argument, long "retry",
    long "max-unchanged-stats" .argument]) words
  let g := { g with options := g.options.map fun (key, text) =>
    (if key == "follow" then "f" else key, text) }
  let a ← amount g '+'
  let separator := if g.has "z" then '\x00' else '\n'
  let paths := if g.operands.isEmpty then ["-"] else g.operands
  let headings := hasHeadings g paths
  let plan ← plan? g headings
  let v ← look
  let rec go : List String → Bool → Option String → Tool (List Followed × Option String)
    | [], _, last => return ([], last)
    | path :: rest, isFirst, last => do
      let opened ← if path == "-" then pure (.ok 0) else sys (.open path .input)
      match opened with
      | .error e =>
        complain ("cannot open " ++ quotedAlways path ++ " for reading: " ++ e.message)
        note 1
        let (files, last) ← go rest isFirst last
        return ({ path, descriptor := none } :: files, last)
      | .ok fd =>
        if headings then put (heading isFirst (nameOf path))
        match ← act (Act.readAll fd) with
        | .ok text =>
          put (lastPart a separator text)
          if plan.isNone && fd ≠ 0 then
            let _ ← sys (.close fd)
          let (files, last) ← go rest false (some path)
          let isPipe := match (← look).descriptors.lookup fd with
            | some .pipe => path == "-"
            | _ => false
          let inode := (contentOf (← look) fd).map (·.1)
          return ({ path, descriptor := if isPipe then none else some fd, inode } :: files, last)
        | .error e =>
          complain ("error reading " ++ quotedAlways (nameOf path) ++ ": " ++ e.message)
          if e = .isDirectory && plan.isSome then
            complain (quoted path ++ ": cannot follow end of this type of file; " ++
              "giving up on this name")
          note 1
          let (files, last) ← go rest false (some path)
          return ({ path, descriptor := none } :: files, last)
  let (files, last) ← go paths true none
  match plan with
  | none => pure ()
  | some p =>
    let isPiped := g.operands.isEmpty && match v.descriptors.lookup 0 with
      | some .pipe => true
      | _ => false
    unless isPiped do
      flush
      follow p Act.limit files last

def catalogue : List (String × (List String → Tool Unit)) := [("head", head), ("tail", tail)]

end Remedy.Tool.Ends
