import Remedy.Power
import Remedy.Unix.Sight

namespace Remedy.Tool

open Unix Files

structure State where
  name : String
  environment : List (String × String) := []
  pieces : List String := []
  size : Nat := 0
  status : Nat := 0
  broken : Option Errno := none

end Tool

/-- Steps of a tool; one that breaks off does so with the status of the tool. -/
abbrev Tool := ExceptT Unit (StateT Tool.State Unix.Act)

namespace Tool

open Unix Files

def sys (r : Request) : Tool r.Answer := fun s next => Act.ask r fun a => next (.ok a, s)

def act (a : Act α) : Tool α := fun s next => a fun x => next (.ok x, s)

def look : Tool View := sys .look

def stop : Tool α := throw ()

def note (status : Nat) : Tool Unit := modify fun s => { s with status := max s.status status }

def setStatus (status : Nat) : Tool Unit := modify ({ · with status })

def flush : Tool Unit := do
  let s ← get
  unless s.pieces.isEmpty do
    set { s with pieces := [], size := 0 }
    if s.broken.isNone then
      match ← act (Act.writeTo 1 (String.join s.pieces.reverse)) with
      | .ok _ => pure ()
      | .error e => modify ({ · with broken := some e })

def bufferSize : Nat := 4096

def put (text : String) : Tool Unit := do
  modify fun s => { s with pieces := text :: s.pieces, size := s.size + text.utf8ByteSize }
  if (← get).size ≥ bufferSize then
    flush
    if (← get).broken.isSome then stop

def putLine (text : String) : Tool Unit := put (text ++ "\n")

def writeError (text : String) : Tool Unit := do
  let _ ← act (Act.writeTo 2 text)

/-- Complains under the name of the tool; what was printed goes out before. -/
def complain (message : String) : Tool Unit := do
  flush
  writeError ((← get).name ++ ": " ++ message ++ "\n")

def fail (status : Nat) (message : String) : Tool α := do
  complain message
  setStatus status
  stop

def refuse (status : Nat) (message : String) : Tool α := do
  complain message
  writeError ("Try '" ++ (← get).name ++ " --help' for more information.\n")
  setStatus status
  stop

/-- Runs a part; tells whether it came to its end. -/
def caught (t : Tool α) : Tool (Except Unit α) := fun s next =>
  t s fun (r, s) => next (.ok r, s)

def program (t : Tool Unit) (name : String) (environment : List (String × String)) : Program :=
  let whole : Tool Unit := do
    let _ ← caught t
    flush
    match (← get).broken with
    | some e =>
      writeError (name ++ ": write error: " ++ e.message ++ "\n")
      note 1
    | none => pure ()
  whole { name, environment } fun (_, s) => .exit s.status

def isShellSpecial (c : Char) : Bool := " \t\n*?[]$`\"\\|&;<>()!^\x7b\x7d'=".toList.contains c

def quotedAlways (s : String) : String :=
  let cs := s.toList
  if cs.any fun c => c < ' ' || c ≥ '\x7f' then
    -- what cannot be printed is written by its number
    let rec go : List Char → Bool → List Char
      | [], inside => if inside then [] else ['\'']
      | c :: rest, inside =>
        if c < ' ' || c ≥ '\x7f' then
          let code : List Char := match c with
            | '\n' => ['\\', 'n']
            | '\t' => ['\\', 't']
            | '\r' => ['\\', 'r']
            | c =>
              let ds := Nat.toDigits 8 c.toNat
              '\\' :: (List.replicate (3 - ds.length) '0' ++ ds)
          (if inside then [] else "''$'".toList.drop 1) ++ code ++
            (match rest with
            | d :: _ =>
              if d < ' ' || d ≥ '\x7f' then go rest true else '\'' :: '\'' :: go rest false
            | [] => '\'' :: go rest true)
        else
          (if c == '\'' then "'\\''".toList else [c]) ++ go rest false
    "'" ++ String.ofList (go cs false)
  else if !cs.contains '\'' then "'" ++ s ++ "'"
  else if cs.any fun c => "\"$`\\!".toList.contains c then
    "'" ++ String.join (cs.map fun c => if c == '\'' then "'\\''" else String.singleton c) ++ "'"
  else "\"" ++ s ++ "\""

def refuseBesideList (status : Nat) (word : String) : Tool α := do
  complain ("extra operand " ++ quotedAlways word)
  writeError ("file operands cannot be combined with --files0-from\n" ++
    "Try '" ++ (← get).name ++ " --help' for more information.\n")
  setStatus status
  stop

def quotedWord (s : String) : String :=
  let needs := s == "" || s.toList.any (fun c => isShellSpecial c || c < ' ' || c ≥ '\x7f') ||
    s.startsWith "~" || s.startsWith "#"
  if needs then quotedAlways s else s

def quoted (s : String) : String := if s.toList.contains ':' then quotedAlways s else quotedWord s

/-- A text in plain quotes, with backslashes in front of what would not stand for itself. -/
def marked (s : String) : String :=
  let escaped (c : Char) : String :=
    match c with
    | '\'' => "\\'"
    | '\\' => "\\\\"
    | '\n' => "\\n"
    | '\t' => "\\t"
    | '\r' => "\\r"
    | '\x07' => "\\a"
    | '\x08' => "\\b"
    | '\x0b' => "\\v"
    | '\x0c' => "\\f"
    | c =>
      if c < ' ' || c ≥ '\x7f' then
        let ds := Nat.toDigits 8 c.toNat
        "\\" ++ String.ofList (List.replicate (3 - ds.length) '0' ++ ds)
      else String.singleton c
  "'" ++ String.join (s.toList.map escaped) ++ "'"

inductive Takes where
  | nothing
  | argument
  | maybe
deriving DecidableEq, Repr

structure Opt where
  letter : Option Char := none
  names : List String := []
  takes : Takes := .nothing

def opt (letter : Char) (name : String) (takes : Takes := .nothing) : Opt :=
  { letter := some letter, names := if name == "" then [] else [name], takes }

def long (name : String) (takes : Takes := .nothing) : Opt := { names := [name], takes }

def letters (s : String) : List Opt := s.toList.map fun c => opt c ""

/-- The name under which an option is asked for: its letter or its first long name. -/
def Opt.key (o : Opt) : String :=
  match o.letter with
  | some c => String.singleton c
  | none => o.names.headD ""

structure Given where
  options : List (String × String) := []
  operands : List String := []

namespace Given

def has (g : Given) (key : String) : Bool := g.options.any (·.1 == key)

def argument? (g : Given) (key : String) : Option String := g.options.reverse.lookup key

def argumentsOf (g : Given) (key : String) : List String :=
  (g.options.filter (·.1 == key)).map (·.2)

def last? (g : Given) (keys : List String) : Option String :=
  (g.options.reverse.find? fun o => keys.contains o.1).map (·.1)

end Given

inductive BadOption where
  | unknownLetter (c : Char)
  | unknownName (word : String)
  | missing (c : Char)
  | missingFor (name : String)
  | unwanted (name : String)
  | ambiguous (word : String) (names : List String)

def BadOption.message : BadOption → String
  | .unknownLetter c => "invalid option -- '" ++ String.singleton c ++ "'"
  | .unknownName w => "unrecognized option '" ++ w ++ "'"
  | .missing c => "option requires an argument -- '" ++ String.singleton c ++ "'"
  | .missingFor name => "option '--" ++ name ++ "' requires an argument"
  | .unwanted name => "option '--" ++ name ++ "' doesn't allow an argument"
  | .ambiguous w names =>
    "option '" ++ w ++ "' is ambiguous; possibilities:" ++
      String.join (names.map fun n => " '--" ++ n ++ "'")

def readLetters (options : List Opt) :
    List Char → List String → Except BadOption (List (String × String) × List String)
  | [], rest => .ok ([], rest)
  | c :: cs, rest =>
    match options.find? (·.letter == some c) with
    | none => .error (.unknownLetter c)
    | some o =>
      match o.takes with
      | .nothing => do
        let (more, rest) ← readLetters options cs rest
        .ok ((o.key, "") :: more, rest)
      | .maybe => .ok ([(o.key, String.ofList cs)], rest)
      | .argument =>
        match cs, rest with
        | [], [] => .error (.missing c)
        | [], a :: rest => .ok ([(o.key, a)], rest)
        | cs, rest => .ok ([(o.key, String.ofList cs)], rest)

def readLong (options : List Opt) (w : String) (rest : List String) :
    Except BadOption (List (String × String) × List String) :=
  let body := w.toList.drop 2
  let name := String.ofList (body.takeWhile (· ≠ '='))
  let argument : Option String := match body.drop name.length with
    | _ :: cs => some (String.ofList cs)
    | [] => none
  let all := options.flatMap fun o => o.names.map fun n => (n, o)
  let exact := all.filter (·.1 == name)
  let found := if exact.isEmpty then all.filter (·.1.startsWith name) else exact
  match found with
  | [] => .error (.unknownName ("--" ++ name))
  | (n, o) :: others =>
    if others.any fun x => x.2.key != o.key then
      .error (.ambiguous ("--" ++ name) (found.map (·.1)))
    else
      match o.takes, argument with
      | .nothing, some _ => .error (.unwanted n)
      | .nothing, none => .ok ([(o.key, "")], rest)
      | .maybe, a => .ok ([(o.key, a.getD "")], rest)
      | .argument, some a => .ok ([(o.key, a)], rest)
      | .argument, none =>
        match rest with
        | [] => .error (.missingFor n)
        | a :: rest => .ok ([(o.key, a)], rest)

/-- Reads options; where `inFront` is set they end at the first operand. -/
def readOptions (options : List Opt) (inFront : Bool) :
    Nat → List String → Except BadOption Given
  | 0, words => .ok { operands := words }
  | _, [] => .ok {}
  | n + 1, w :: rest => do
    match w.toList with
    | ['-', '-'] => .ok { operands := rest }
    | '-' :: '-' :: _ =>
      let (given, rest) ← readLong options w rest
      let more ← readOptions options inFront n rest
      .ok { more with options := given ++ more.options }
    | '-' :: c :: cs =>
      let (given, rest) ← readLetters options (c :: cs) rest
      let more ← readOptions options inFront n rest
      .ok { more with options := given ++ more.options }
    | _ =>
      if inFront then .ok { operands := w :: rest }
      else
        let more ← readOptions options inFront n rest
        .ok { more with operands := w :: more.operands }

/-- The options and operands of a tool, which ends with the status at a bad option. -/
def given (options : List Opt) (words : List String) (inFront : Bool := false)
    (status : Nat := 1) : Tool Given := do
  match readOptions options inFront (words.length + 1) words with
  | .ok g => return g
  | .error e => refuse status e.message

def demand (g : Given) (least : Nat) (status : Nat := 1) (kind : String := "operand") :
    Tool Unit := do
  if g.operands.length < least then
    match g.operands.getLast? with
    | none => refuse status ("missing " ++ kind)
    | some w => refuse status ("missing operand after " ++ quotedAlways w)

def bound (g : Given) (most : Nat) (status : Nat := 1) : Tool Unit := do
  match g.operands[most]? with
  | some w => refuse status ("extra operand " ++ quotedAlways w)
  | none => pure ()

/-- A line of the input, read octet by octet; `none` at the end. -/
def readLine : Tool (Option String) :=
  act (Act.repeatUntil (fun (cs : List Char) => do
    match ← Act.ask (.read 0 1) with
    | .error _ => return .inr none
    | .ok data =>
      match (Text.Octets.ofBytes data).toList with
      | [] => return .inr (if cs.isEmpty then none else some (String.ofList cs.reverse))
      | c :: _ =>
        return if c == '\n' then .inr (some (String.ofList cs.reverse)) else .inl (c :: cs))
    (fun _ => none) Act.limit [])

/-- Asks a question; what begins with a `y` is a yes. -/
def confirm (question : String) : Tool Bool := do
  flush
  writeError ((← get).name ++ ": " ++ question ++ "? ")
  return (← readLine).any fun line => line.startsWith "y" || line.startsWith "Y"

def change (c : Change) : Tool (Except Errno Unit) := sys (.change c)

def status (path : String) (follow : Bool) : Tool (Except Errno Status) := do
  return (← look).status path follow

def readAll (path : String) : Tool (Except Errno String) := do
  if path == "-" then act (Act.readAll 0)
  else
    match ← sys (.open path .input) with
    | .error e => return .error e
    | .ok fd =>
      let text ← act (Act.readAll fd)
      let _ ← sys (.close fd)
      return text

def forFiles (paths : List String) (f : String → String → Tool Unit) : Tool Unit := do
  let paths := if paths.isEmpty then ["-"] else paths
  paths.forM fun path => do
    match ← readAll path with
    | .ok text => f path text
    | .error e =>
      complain (quoted path ++ ": " ++ e.message)
      note 1

def linesOf (text : String) (separator : Char := '\n') : List String × Bool :=
  let segments := text.splitOn (String.singleton separator)
  match segments.getLast? with
  | some "" => (segments.dropLast, true)
  | _ => (segments, false)

def unlines (lines : List String) (isEnded : Bool) (separator : String) : String :=
  match lines with
  | [] => ""
  | lines => separator.intercalate lines ++ (if isEnded then separator else "")

def natural? (s : String) : Option Nat :=
  let cs := s.toList
  if !cs.isEmpty && cs.all Char.isDigit then
    some (cs.foldl (fun n c => 10 * n + (c.toNat - 48)) 0)
  else none

inductive Misread where
  | malformed
  | suffix
  | tooGreat
deriving DecidableEq, Repr

def powerOf? (c : Char) : Option Nat :=
  match c with
  | 'k' | 'K' => some 1
  | 'm' | 'M' => some 2
  | 'g' | 'G' => some 3
  | 't' | 'T' => some 4
  | 'P' => some 5
  | 'E' => some 6
  | 'Z' => some 7
  | 'Y' => some 8
  | 'R' => some 9
  | 'Q' => some 10
  | _ => none

/-- What a suffix multiplies by. Its letter is one of those given; where a zero is given too, a
second letter tells whether the powers are those of 1000 or of 1024. -/
def multiplier? (letters : List Char) (suffix : List Char) : Option Nat :=
  match suffix with
  | [] => some 1
  | c :: rest =>
    if !letters.contains c then none
    else
      match powerOf? c, rest with
      | some n, [] => some (Nat.pow 1024 n)
      | some n, ['i', 'B'] => if letters.contains '0' then some (Nat.pow 1024 n) else none
      | some n, ['B'] | some n, ['D'] =>
        if letters.contains '0' then some (Nat.pow 1000 n) else none
      | none, [] =>
        match c with
        | 'b' => some 512
        | 'B' => some 1024
        | 'c' => some 1
        | 'w' => some 2
        | _ => none
      | _, _ => none

/-- A number with its suffix, where a suffix alone stands for once what it multiplies by. -/
def sized (letters : String) (s : String) : Except Misread Nat :=
  let cs := s.toList.dropWhile fun c => c == ' ' || ('\t' ≤ c && c ≤ '\r')
  let cs := match cs with
    | '+' :: rest => if rest.head?.any Char.isDigit then rest else cs
    | cs => cs
  let digits := cs.takeWhile Char.isDigit
  let rest := cs.drop digits.length
  let isBare := digits.isEmpty
  if isBare && !rest.head?.any letters.toList.contains then .error .malformed
  else
    let n := if isBare then 1 else (natural? (String.ofList digits)).getD 0
    match multiplier? letters.toList rest with
    | none => .error .suffix
    | some m => if n * m < twoTo 64 then .ok (n * m) else .error .tooGreat

def sizeLetters : String := "bkKmMGTPEZYRQ0"

def size? (s : String) : Option Nat := (sized (sizeLetters ++ "cwgt") s).toOption

/-- A number between two bounds; the tool ends with a complaint about any other text. -/
def numberIn (complaint letters : String) (least most : Nat) (text : String) (status : Nat := 1) :
    Tool Nat := do
  let refused (reason : String) : Tool Nat :=
    fail status (complaint ++ ": " ++ marked text ++ reason)
  match sized letters text with
  | .error .tooGreat => refused ": Value too large for defined data type"
  | .error _ => refused ""
  | .ok n =>
    if least ≤ n && n ≤ most then return n
    else if n < twoTo 30 then refused ": Numerical result out of range"
    else refused ": Value too large for defined data type"

def numberOf (g : Given) (key complaint letters : String) (least usual : Nat) : Tool Nat := do
  match g.argument? key with
  | some text => numberIn complaint letters least (twoTo 63 - 1) text
  | none => return usual

def refuseSize (option text : String) (m : Misread) (status : Nat) : Tool α :=
  match m with
  | .malformed => fail status ("invalid " ++ option ++ " argument " ++ marked text)
  | .suffix => fail status ("invalid suffix in " ++ option ++ " argument " ++ marked text)
  | .tooGreat => fail status (option ++ " argument " ++ marked text ++ " too large")

/-- The choice that an argument makes among words, of which each list holds those for one thing; so
much of a word is enough as tells it from the words for other things. -/
def choose (context : String) (choices : List (List String)) (text : String) : Tool String := do
  match choices.find? (·.contains text) with
  | some names => return names.headD ""
  | none =>
    match choices.filter (·.any (·.startsWith text)) with
    | [names] => return names.headD ""
    | found =>
      complain ((if found.isEmpty then "invalid" else "ambiguous") ++ " argument " ++ marked text ++
        " for " ++ marked context)
      writeError ("Valid arguments are:\n" ++ String.join (choices.map fun names =>
        "  - " ++ ", ".intercalate (names.map marked) ++ "\n"))
      writeError ("Try '" ++ (← get).name ++ " --help' for more information.\n")
      setStatus 1
      stop

/-- The choice of an option that may be missing, or stand without an argument. -/
def choiceOf (g : Given) (key context : String) (choices : List (List String)) :
    Tool (Option String) := do
  match g.argument? key with
  | none | some "" => return none
  | some text => return some (← choose context choices text)

def padLeft (s : String) (width : Nat) : String := "".pushn ' ' (width - s.length) ++ s

def padRight (s : String) (width : Nat) : String := s ++ "".pushn ' ' (width - s.length)

def join (directory name : String) : String :=
  if directory.endsWith "/" then directory ++ name else directory ++ "/" ++ name

def withoutSlashes (path : String) : String :=
  let cs := path.toList.reverse.dropWhile (· == '/')
  if cs.isEmpty && path != "" then "/" else String.ofList cs.reverse

def baseName (path : String) : String :=
  let cs := path.toList.reverse.dropWhile (· == '/')
  if cs.isEmpty then (if path == "" then "" else "/")
  else String.ofList (cs.takeWhile (· ≠ '/')).reverse

end Remedy.Tool
