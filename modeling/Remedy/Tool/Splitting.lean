import Remedy.Tool.Ends
import Remedy.Tool.Running

namespace Remedy.Tool.Splitting

open Unix Files

inductive Portion where
  | octets
  | lines
  | dealt
deriving DecidableEq, Repr

inductive Manner where
  | lines (count : Nat)
  | octets (count : Nat)
  | lineOctets (count : Nat)
  | pieces (kind : Portion) (wanted : Option Nat) (count : Nat)

def records (separator : Char) (text : String) : List String :=
  let (lines, isEnded) := linesOf text separator
  let count := lines.length
  lines.zipIdx.map fun (line, i) =>
    if i + 1 < count || isEnded then line.push separator else line

def together (n : Nat) : Nat → List α → List (List α)
  | 0, _ | _, [] => []
  | fuel + 1, xs => xs.take n :: together n fuel (xs.drop n)

/-- Lines put together as long as they fit; what alone does not fit is cut. -/
def fitted (size : Nat) : Nat → String → List String → List String
  | 0, piece, _ | _, piece, [] => if piece == "" then [] else [piece]
  | fuel + 1, piece, line :: rest =>
    if piece.length + line.length ≤ size then fitted size fuel (piece ++ line) rest
    else if piece != "" then piece :: fitted size fuel "" (line :: rest)
    else
      String.ofList (line.toList.take size) ::
        fitted size fuel "" (String.ofList (line.toList.drop size) :: rest)

/-- Where the first pieces of a text end if it is cut evenly; the first ones may be longer. -/
def boundary (size count i : Nat) : Nat := i * (size / count) + min i (size % count)

def cut (m : Manner) (separator : Char) (text : String) : List String :=
  match m with
  | .lines n => (together n (text.length + 1) (records separator text)).map String.join
  | .octets n => (together n (text.length + 1) text.toList).map String.ofList
  | .lineOctets n => fitted n (2 * text.length + 2) "" (records separator text)
  | .pieces kind _ n =>
    match kind with
    | .octets =>
      let cs := text.toList.toArray
      (List.range n).map fun i =>
        String.ofList (cs.extract (boundary cs.size n i) (boundary cs.size n (i + 1))).toList
    | .lines =>
      let size := text.length
      -- a line belongs to the piece in which it begins
      let (pieces, _, _) := (records separator text).foldl (fun (pieces, place, last) line =>
        let skipped := ((List.range n).drop last).takeWhile fun i =>
          boundary size n (i + 1) ≤ place
        let found := min (last + skipped.length) (n - 1)
        ((pieces : Array String).modify found (· ++ line), place + line.length, found))
        (Array.replicate n "", 0, 0)
      pieces.toList
    | .dealt =>
      let lines := (records separator text).zipIdx
      (List.range n).map fun i =>
        String.join ((lines.filter fun l => l.2 % n = i).map (·.1))

structure Naming where
  stem : String
  letters : List Char := (List.range 26).map fun n => Char.ofNat (97 + n)
  length : Nat := 2
  /-- Whether names get longer once the first letter would be the last one of all. -/
  grows : Bool := true
  first : Nat := 0
  ending : String := ""

def Naming.numeral (n : Naming) (length k : Nat) : String :=
  let base := n.letters.length
  let rec go : Nat → Nat → List Char → List Char
    | 0, _, cs => cs
    | m + 1, k, cs => go m (k / base) (n.letters.getD (k % base) 'a' :: cs)
  String.ofList (go length k [])

def Naming.name? (n : Naming) (k : Nat) : Option String :=
  let base := n.letters.length
  let rec grown : Nat → String → Nat → Nat → String
    | 0, front, length, k => front ++ n.numeral length k
    | fuel + 1, front, length, k =>
      let room := (base - 1) * Nat.pow base (length - 1)
      if k < room then front ++ n.numeral length k
      else grown fuel (front.push (n.letters.getLastD 'z')) (length + 1) (k - room)
  if n.grows then some (n.stem ++ grown 20 "" n.length k ++ n.ending)
  else if n.first + k < Nat.pow base n.length then
    some (n.stem ++ n.numeral n.length (n.first + k) ++ n.ending)
  else none

/-- How many letters the names of so many pieces need at least. -/
def Naming.needed (n : Naming) (count : Nat) : Nat :=
  let last := count - 1 + if n.first < count then n.first else 0
  let rec go : Nat → Nat → Nat
    | 0, _ => 1
    | fuel + 1, k => if k < n.letters.length then 1 else 1 + go fuel (k / n.letters.length)
  go 64 last

structure Plan where
  manner : Manner := .lines 1000
  naming : Naming
  separator : Char := '\n'
  skipsEmpty : Bool := false
  tells : Bool := false
  filter : Option String := none

def units (complaint letters text : String) : Tool Nat := do
  match sized letters text with
  | .ok 0 | .error .malformed | .error .suffix => fail 1 (complaint ++ ": " ++ marked text)
  | .ok n => return n
  | .error .tooGreat => return twoTo 63

def chunks (text : String) : Tool Manner := do
  let complaint := "invalid number of chunks"
  let (kind, rest) := match text.toList with
    | 'l' :: '/' :: rest => (Portion.lines, rest)
    | 'r' :: '/' :: rest => (.dealt, rest)
    | cs => (.octets, cs)
  let digits := rest.takeWhile Char.isDigit
  match digits, rest.drop digits.length with
  | _ :: _, '/' :: count =>
    let k := (natural? (String.ofList digits)).getD 0
    let n ← units complaint "" (String.ofList count)
    if 0 < k && k ≤ n then return .pieces kind (some k) n
    else fail 1 ("invalid chunk number: " ++ marked (String.ofList digits))
  | _, _ => return .pieces kind none (← units complaint "" (String.ofList rest))

def newStyle (words : List String) : List String :=
  words.map fun w =>
    match w.toList with
    | '-' :: c :: cs => if (c :: cs).all Char.isDigit then "-l" ++ String.ofList (c :: cs) else w
    | _ => w

/-- How the pieces are cut; only one way may be named. -/
def mannerOf (g : Given) : Tool Manner := do
  let mut found : Option Manner := none
  for (key, text) in g.options do
    if ["l", "b", "C", "n"].contains key then
      if found.isSome then refuse 1 "cannot split in more than one way"
      match key with
      | "l" => found := some (.lines (← units "invalid number of lines" "" text))
      | "b" => found := some (.octets (← units "invalid number of bytes" sizeLetters text))
      | "C" => found := some (.lineOctets (← units "invalid number of lines" sizeLetters text))
      | _ => found := some (← chunks text)
  return found.getD (.lines 1000)

def separatorOf (g : Given) : Tool Char := do
  let read (text : String) : Tool Char :=
    match text.toList with
    | [] => fail 1 "empty record separator"
    | ['\\', '0'] => return '\x00'
    | [c] => return c
    | _ => fail 1 ("multi-character separator " ++ marked text)
  let separators ← (g.argumentsOf "t").mapM read
  match separators with
  | [] => return '\n'
  | c :: rest =>
    if rest.all (· == c) then return c
    else fail 1 "multiple separator characters specified"

def namingOf (g : Given) (m : Manner) (stem : String) : Tool Naming := do
  let ending := (g.argument? "additional-suffix").getD ""
  if ending.toList.contains '/' then
    refuse 1 ("invalid suffix " ++ marked ending ++ ", contains directory separator")
  let mut n : Naming := { stem, ending }
  for (key, text) in g.options do
    let digits := (List.range 10).map fun n => Char.ofNat (48 + n)
    let kind := if ["d", "numeric-suffixes"].contains key then some (digits, "numerical")
      else if ["x", "hex-suffixes"].contains key then
        some (digits ++ ['a', 'b', 'c', 'd', 'e', 'f'], "hexadecimal")
      else none
    match kind with
    | none => pure ()
    | some (letters, name) =>
      n := { n with letters, first := 0 }
      if text != "" then
        if text.toList.all letters.contains then
          let first := text.toList.foldl (fun k c =>
            k * letters.length + (letters.findIdx? (· == c)).getD 0) 0
          n := { n with first, grows := false }
        else
          refuse 1 (marked text ++ ": invalid start value for " ++ name ++ " suffix")
  let length ← match g.argument? "a" with
    | some text => numberIn "invalid suffix length" "" 0 (twoTo 31) text
    | none => pure 0
  let needed := match m with
    | .pieces _ _ count => n.needed count
    | _ => 0
  if length > 0 && length < needed then
    fail 1 ("the suffix length needs to be at least " ++ toString needed)
  if length > 0 then return { n with length, grows := false }
  else return { n with length := max 2 needed, grows := n.grows && needed = 0 }

def planOf (g : Given) : Tool Plan := do
  let manner ← mannerOf g
  let separator ← separatorOf g
  let naming ← namingOf g manner (g.operands.getD 1 "x")
  let filter := g.argument? "filter"
  match manner, filter with
  | .pieces _ (some _) _, some _ =>
    refuse 1 "--filter does not process a chunk extracted to stdout"
  | _, _ => pure ()
  return { manner, naming, separator, filter
           skipsEmpty := g.has "e", tells := g.has "verbose" }

def give (command name piece : String) : Tool Unit := do
  let environment := (← get).environment
  let shell := (environment.lookup "SHELL").getD "/bin/sh"
  let (reading, writing) ← sys .pipe
  let child : Act Errno := do
    let _ ← Act.ask (.copyTo reading 0)
    [reading, writing].forM fun fd => do
      let _ ← Act.ask (.close fd)
    Running.become shell [baseName shell, "-c", command]
      (environment.filter (·.1 != "FILE") ++ [("FILE", name)])
  flush
  let pid ← act (Act.fork (child fun e => .exit (Running.statusOf e)))
  let _ ← sys (.close reading)
  let _ ← sys (.dispose Signal.brokenPipe .ignore)
  let _ ← act (Act.writeTo writing piece)
  let _ ← sys (.close writing)
  match ← Running.await pid with
  | .code 0 => pure ()
  | .code n =>
    fail n ("with FILE=" ++ name ++ ", exit " ++ toString n ++ " from command: " ++ command)
  | .signal s =>
    fail (128 + s) ("with FILE=" ++ name ++ ", signal " ++ Signal.name s ++ " from command: " ++ command)

def write (p : Plan) (input : Option Nat) (name piece : String) : Tool Unit := do
  match p.filter with
  | some command =>
    if p.tells then putLine ("executing with FILE=" ++ quoted name)
    give command name piece
  | none =>
    if p.tells then putLine ("creating file " ++ quotedAlways name)
    let v ← look
    match v.status name true with
    | .ok s =>
      if input == some s.inode then
        fail 1 (quotedAlways name ++ " would overwrite input; aborting")
    | .error _ => pure ()
    match ← sys (.open name .output) with
    | .ok fd =>
      let _ ← act (Act.writeTo fd piece)
      let _ ← sys (.close fd)
    | .error e => fail 1 (quoted name ++ ": " ++ e.message)

def split (words : List String) : Tool Unit := do
  let g ← given [opt 'l' "lines" .argument, opt 'b' "bytes" .argument,
    opt 'C' "line-bytes" .argument, opt 'n' "number" .argument,
    opt 'a' "suffix-length" .argument, opt 'd' "", long "numeric-suffixes" .maybe, opt 'x' "",
    long "hex-suffixes" .maybe, long "additional-suffix" .argument, opt 'e' "elide-empty-files",
    opt 't' "separator" .argument, opt 'u' "unbuffered", long "filter" .argument,
    long "verbose"] (newStyle words)
  let p ← planOf g
  bound g 2
  let input := g.operands.headD "-"
  match ← readAll input with
  | .error e =>
    if e = .isDirectory then fail 1 (quoted input ++ ": " ++ e.message)
    else fail 1 ("cannot open " ++ quotedAlways input ++ " for reading: " ++ e.message)
  | .ok text =>
    let pieces := cut p.manner p.separator text
    match p.manner with
    | .pieces _ (some k) _ => put (pieces.getD (k - 1) "")
    | _ =>
      let pieces := if p.skipsEmpty then pieces.filter (· != "") else pieces
      let v ← look
      let inode := if input == "-" then
          match v.descriptors.lookup 0 with
          | some (.file n) => some n
          | _ => none
        else (v.status input true).toOption.map (·.inode)
      pieces.zipIdx.forM fun (piece, i) => do
        match p.naming.name? i with
        | some name => write p inode name piece
        | none => fail 1 "output file suffixes exhausted"

def catalogue : List (String × (List String → Tool Unit)) := [("split", split)]

end Remedy.Tool.Splitting
