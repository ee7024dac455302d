import Remedy.Regex.Matching
import Remedy.Tool.Input

namespace Remedy.Tool.Lines

structure Marks where
  numbers : Bool := false
  numbersFilled : Bool := false
  ends : Bool := false
  squeezes : Bool := false
  tabs : Bool := false
  controls : Bool := false

def visible (m : Marks) (c : Char) : String :=
  if c == '\t' then if m.tabs then "^I" else "\t"
  else if !m.controls then String.singleton c
  else
    let low (n : Nat) : String :=
      if n < 32 then "^" ++ String.singleton (Char.ofNat (n + 64))
      else if n = 127 then "^?" else String.singleton (Char.ofNat n)
    if c.toNat < 128 then low c.toNat else "M-" ++ low (c.toNat - 128)

structure Progress where
  number : Nat := 0
  empty : Nat := 0
  atStart : Bool := true

def markedLine (m : Marks) (p : Progress) (line : String) (isEnded : Bool) : String × Progress :=
  let isEmpty := line == "" && p.atStart
  if isEmpty && isEnded && m.squeezes && p.empty ≥ 1 then ("", { p with empty := p.empty + 1 })
  else
    let counts := p.atStart && (m.numbers && !m.numbersFilled || m.numbersFilled && !isEmpty)
    let number := if counts then p.number + 1 else p.number
    let head := if counts then padLeft (toString number) 6 ++ "\t" else ""
    let body := if m.tabs || m.controls then String.join (line.toList.map (visible m)) else line
    (head ++ body ++ (if isEnded then (if m.ends then "$\n" else "\n") else ""),
      { number, empty := if isEmpty then p.empty + 1 else 0, atStart := isEnded })

def catWith (m : Marks) (paths : List String) : Tool Unit := do
  let _ ← foldLines (Input.ofPaths paths) ({} : Progress) fun p line isEnded => do
    let (piece, p) := markedLine m p line isEnded
    put piece
    return some p

def copyAll (fd : Nat) : Tool (Except Files.Errno Unit) := do
  flush
  act (Unix.Act.repeatUntil (fun (_ : Unit) => do
    match ← Unix.Act.ask (.read fd Unix.Act.block) with
    | .error e => return .inr (.error e)
    | .ok data =>
      if data.isEmpty then return .inr (.ok ())
      else
        match ← Unix.Act.ask (.write 1 data) with
        | .ok _ => return .inl ()
        | .error _ => return .inr (.ok ())) (fun _ => .ok ()) Unix.Act.limit ())

def cat (words : List String) : Tool Unit := do
  let g ← given (letters "AbeEnstTuv" ++ [opt 'A' "show-all", opt 'b' "number-nonblank",
    opt 'E' "show-ends", opt 'n' "number", opt 's' "squeeze-blank", opt 'T' "show-tabs",
    opt 'v' "show-nonprinting"]) words
  let m : Marks := {
    numbers := g.has "n" || g.has "b"
    numbersFilled := g.has "b"
    ends := g.has "E" || g.has "A" || g.has "e"
    squeezes := g.has "s"
    tabs := g.has "T" || g.has "A" || g.has "t"
    controls := g.has "v" || g.has "A" || g.has "e" || g.has "t" }
  let paths := if g.operands.isEmpty then ["-"] else g.operands
  if m.numbers || m.ends || m.squeezes || m.tabs || m.controls then catWith m paths
  else
    paths.forM fun path => do
      let view ← look
      let target : Option Nat := match view.status path true with
        | .ok s => if s.kind == .regular && s.size > 0 then some s.inode else none
        | .error _ => none
      let output : Option Nat := match view.descriptors.lookup 1 with
        | some (.file n) => some n
        | _ => none
      if path != "-" && target.isSome && target == output then
        complain (quoted path ++ ": input file is output file")
        note 1
      else if path == "-" then
        match ← copyAll 0 with
        | .ok _ => pure ()
        | .error e =>
          complain ("-: " ++ e.message)
          note 1
      else
        match ← sys (.open path .input) with
        | .error e =>
          complain (quoted path ++ ": " ++ e.message)
          note 1
        | .ok fd =>
          match ← copyAll fd with
          | .ok _ => pure ()
          | .error e =>
            complain (quoted path ++ ": " ++ e.message)
            note 1
          let _ ← sys (.close fd)

/-- Where a separator that begins at a place ends, if one does so before another place. -/
abbrev Separator := Array Char → Nat → Nat → Option Nat

def Separator.ofText (separator : String) : Separator := fun text n stop =>
  let size := separator.length
  if n + size ≤ stop && (text.extract n (n + size)).toList == separator.toList then some (n + size)
  else none

def Separator.ofPattern (r : Regex.Compiled) : Separator := fun text n stop =>
  match Regex.matchAt? r {} (text.extract 0 stop) n with
  | some f => if f.stop > n then some f.stop else none
  | none => none

/-- The separators of a text, looked for from its end; none reaches into the one behind it. -/
def separations (s : Separator) (text : Array Char) : Nat → Nat → List (Nat × Nat)
  | 0, _ => []
  | n + 1, stop =>
    match s text n stop with
    | some last => (n, last) :: separations s text n n
    | none => separations s text n stop

def cutAt (places : List (Nat × Nat)) (inFront : Bool) (text : Array Char) : List String :=
  let cuts := places.map fun (a, b) => if inFront then a else b
  let (pieces, stop) := cuts.foldl (fun (pieces, stop) n =>
    (String.ofList (text.extract n stop).toList :: pieces, n)) ([], text.size)
  String.ofList (text.extract 0 stop).toList :: pieces

def tac (words : List String) : Tool Unit := do
  let g ← given [opt 'b' "before", opt 'r' "regex", opt 's' "separator" .argument] words
  let separator := (g.argument? "s").getD "\n"
  if g.has "r" && separator == "" then fail 1 "separator cannot be empty"
  let separator := if separator == "" then "\x00" else separator
  let finder : Separator ← if g.has "r" then do
      match Regex.read { isExtended := false } (String.ofList (Regex.toBasic false separator.toList)) with
      | .ok r => pure (.ofPattern (Regex.compile r))
      | .error e => fail 1 e
    else pure (.ofText separator)
  let paths := if g.operands.isEmpty then ["-"] else g.operands
  paths.forM fun path => do
    match ← readAll path with
    | .error e =>
      if e = .isDirectory then complain (quoted path ++ ": read error: " ++ e.message)
      else complain ("failed to open " ++ quotedAlways path ++ " for reading: " ++ e.message)
      note 1
    | .ok text =>
      let cs := text.toList.toArray
      put (String.join (cutAt (separations finder cs cs.size cs.size) (g.has "b") cs).reverse)

def rev (words : List String) : Tool Unit := do
  let g ← given [opt 'h' "help"] words
  let i := { Input.ofPaths g.operands with
    complaint := fun path e => "cannot open " ++ path ++ ": " ++ e.message }
  mapLines i fun line => String.ofList line.toList.reverse

inductive Style where
  | every
  | filled
  | none
  | matching (pattern : Regex.Compiled)

inductive Part where
  | header
  | body
  | footer
deriving DecidableEq

structure Numbering where
  style : Part → Style := fun part => if part = .body then .filled else .none
  start : Int := 1
  step : Int := 1
  width : Nat := 6
  separator : String := "\t"
  /-- Whether each part begins with the first number again. -/
  restarts : Bool := true
  joined : Nat := 1
  format : String := "rn"
  delimiter : String := "\\:"

def style? (part text : String) : Tool (Option Style) := do
  match text.toList with
  | 'a' :: _ => return some .every
  | 't' :: _ => return some .filled
  | 'n' :: _ => return some .none
  | 'p' :: pattern =>
    match Regex.read { isExtended := false } (String.ofList pattern) with
    | .ok r => return some (.matching (Regex.compile r))
    | .error e => fail 1 e
  | _ =>
    complain ("invalid " ++ part ++ " numbering style: " ++ marked text)
    return none

def integerIn (complaint text : String) : Tool Int := do
  let (isNegative, digits) := match text.toList with
    | '-' :: rest => (true, rest)
    | cs => (false, cs)
  let bad := isNegative && !digits.head?.any Char.isDigit
  match if bad then .error .malformed else sized "" (String.ofList digits) with
  | .ok n =>
    if n < twoTo 63 then return if isNegative then -n else n
    else fail 1 (complaint ++ ": " ++ marked text ++ ": Value too large for defined data type")
  | .error .tooGreat =>
    fail 1 (complaint ++ ": " ++ marked text ++ ": Value too large for defined data type")
  | .error _ => fail 1 (complaint ++ ": " ++ marked text)

def Numbering.number (n : Numbering) (k : Int) : String :=
  match n.format with
  | "ln" => padRight (toString k) n.width
  | "rz" =>
    let digits := toString k.natAbs
    let mark := if k < 0 then "-" else ""
    mark ++ "".pushn '0' (n.width - mark.length - digits.length) ++ digits
  | _ => padLeft (toString k) n.width

def Numbering.part? (n : Numbering) (line : String) : Option Part :=
  if n.delimiter.length < 2 then none
  else if line == n.delimiter ++ n.delimiter ++ n.delimiter then some .header
  else if line == n.delimiter ++ n.delimiter then some .body
  else if line == n.delimiter then some .footer
  else none

structure Count where
  part : Part := .body
  number : Int
  empty : Nat := 0

def Numbering.counts (n : Numbering) (c : Count) (line : String) : Bool × Count :=
  match n.style c.part with
  | .every =>
    if n.joined > 1 then
      if line != "" || c.empty + 1 = n.joined then (true, { c with empty := 0 })
      else (false, { c with empty := c.empty + 1 })
    else (true, c)
  | .filled => (line != "", c)
  | .none => (false, c)
  | .matching pattern => ((Regex.search? pattern {} line.toList.toArray 0).isSome, c)

def numberingOf (g : Given) : Tool Numbering := do
  let mut n : Numbering := {}
  let mut isSound := true
  for (key, text) in g.options do
    match key with
    | "b" | "h" | "f" =>
      let (part, name) : Part × String := match key with
        | "b" => (.body, "body")
        | "h" => (.header, "header")
        | _ => (.footer, "footer")
      match ← style? name text with
      | some style =>
        let others := n.style
        n := { n with style := fun p => if p = part then style else others p }
      | none => isSound := false
    | "v" => n := { n with start := ← integerIn "invalid starting line number" text }
    | "i" => n := { n with step := ← integerIn "invalid line number increment" text }
    | "l" =>
      n := { n with joined := ← numberIn "invalid line number of blank lines" "" 1 (twoTo 63) text }
    | "w" =>
      n := { n with width := ← numberIn "invalid line number field width" "" 1 2147483647 text }
    | "n" =>
      if ["ln", "rn", "rz"].contains text then n := { n with format := text }
      else
        complain ("invalid line numbering format: " ++ marked text)
        isSound := false
    | "s" => n := { n with separator := text }
    | "p" => n := { n with restarts := false }
    | "d" => n := { n with delimiter := if text.length = 1 then text ++ ":" else text }
    | _ => pure ()
  if isSound then return n
  else
    writeError "Try 'nl --help' for more information.\n"
    setStatus 1
    stop

def nl (words : List String) : Tool Unit := do
  let g ← given [opt 'b' "body-numbering" .argument, opt 'w' "number-width" .argument,
    opt 's' "number-separator" .argument, opt 'v' "starting-line-number" .argument,
    opt 'i' "line-increment" .argument, opt 'n' "number-format" .argument,
    opt 'h' "header-numbering" .argument, opt 'f' "footer-numbering" .argument,
    opt 'd' "section-delimiter" .argument, opt 'l' "join-blank-lines" .argument,
    opt 'p' "no-renumber"] words
  let n ← numberingOf g
  let _ ← foldLines (Input.ofPaths g.operands) ({ number := n.start } : Count) fun c line _ => do
    match n.part? line with
    | some part =>
      put "\n"
      return some { c with part, number := if n.restarts then n.start else c.number }
    | none =>
      let (isNumbered, c) := n.counts c line
      if isNumbered then
        put (n.number c.number ++ n.separator ++ line ++ "\n")
        return some { c with number := c.number + n.step }
      else
        put ("".pushn ' ' (n.width + n.separator.length) ++ line ++ "\n")
        return some c

def tee (words : List String) : Tool Unit := do
  let g ← given [opt 'a' "append", opt 'i' "ignore-interrupts", opt 'p' "",
    long "output-error" .maybe] words
  let _ ← choiceOf g "output-error" "--output-error"
    [["warn"], ["warn-nopipe"], ["exit"], ["exit-nopipe"]]
  let opening : Unix.Opening := if g.has "a" then .appending else .output
  let opened ← g.operands.filterMapM fun path => do
    match ← sys (.open path opening) with
    | .ok fd => return some fd
    | .error e =>
      complain (quoted path ++ ": " ++ e.message)
      note 1
      return none
  let _ ← act (Unix.Act.repeatUntil (fun (_ : Unit) => do
    match ← Unix.Act.ask (.read 0 Unix.Act.block) with
    | .error _ => return .inr ()
    | .ok data =>
      if data.isEmpty then return .inr ()
      else
        let _ ← Unix.Act.ask (.write 1 data)
        opened.forM fun fd => do
          let _ ← Unix.Act.ask (.write fd data)
        return .inl ()) (fun _ => ()) Unix.Act.limit ())

def catalogue : List (String × (List String → Tool Unit)) := [
  ("cat", cat), ("tac", tac), ("rev", rev), ("nl", nl), ("tee", tee)]

end Remedy.Tool.Lines
