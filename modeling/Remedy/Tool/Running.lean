import Remedy.Decimal.Quantity
import Remedy.Tool.Input

namespace Remedy.Tool.Running

open Unix Files

def locate (environment : List (String × String)) (name : String) : Tool (Except Errno String) := do
  let v ← look
  let check (path : String) : Except Errno String :=
    match v.status path true with
    | .error e => .error e
    | .ok s => if s.kind == .regular && s.isExecutable then .ok path else .error .denied
  if name.toList.contains '/' then return check name
  else
    let directories := ((environment.lookup "PATH").getD "/bin:/usr/bin").splitOn ":"
    let results := directories.map fun d => check (if d == "" then name else join d name)
    return match results.find? (·.isOk) with
      | some found => found
      | none =>
        if results.any fun | .error .denied => true | _ => false then .error .denied
        else .error .missing

/-- Puts a program in the place of this one; a file that is none is read by the shell. -/
def become (path : String) (words : List String) (environment : List (String × String)) :
    Act Errno := do
  match ← Act.ask (.exec path words environment) with
  | .notExecutable =>
    Act.ask (.exec "/bin/sh" ("/bin/sh" :: path :: words.drop 1) environment)
  | e => return e

def statusOf (e : Errno) : Nat := if e == .missing then 127 else 126

/-- Ends by running a program; `complaint` is what is said if there is none. -/
def launch (words : List String) (environment : List (String × String))
    (complaint : String → String := quotedAlways) : Tool Unit := do
  flush
  let name := words.headD ""
  let e ← match ← locate environment name with
    | .ok path => act (become path words environment)
    | .error e => pure e
  fail (statusOf e) (complaint name ++ ": " ++ e.message)

inductive Source where
  | same
  | nothing
deriving DecidableEq, Repr

def spawn (path : String) (words : List String) (environment : List (String × String))
    (source : Source := .same) : Tool Nat := do
  flush
  let child : Act Errno := do
    if source == .nothing then
      match ← Act.ask (.open "/dev/null" .input) with
      | .ok fd =>
        let _ ← Act.ask (.copyTo fd 0)
        if fd ≠ 0 then
          let _ ← Act.ask (.close fd)
      | .error _ => pure ()
    become path words environment
  act (Act.fork (child fun e => .exit (statusOf e)))

def await (pid : Nat) : Tool Exit := do
  match ← sys (.wait (.child pid) .always) with
  | .ended _ exit => return exit
  | _ => return .code 0

def duration? (s : String) : Option Nat := do
  let (q, rest) ← Decimal.Quantity.read? s.toList
  let unit ← match rest with
    | [] | ['s'] => some 1
    | ['m'] => some 60
    | ['h'] => some 3600
    | ['d'] => some 86400
    | _ => none
  match q with
  | .ratio negative num den =>
    if negative && num ≠ 0 then none else some (num * unit * 1000000000 / den)
  | .infinite false => some (tenTo 18)
  | _ => none

def sleep (words : List String) : Tool Unit := do
  let g ← given [] words
  demand g 1
  let mut total := 0
  let mut hasFault := false
  for w in g.operands do
    match duration? w with
    | some n => total := total + n
    | none =>
      complain ("invalid time interval " ++ quotedAlways w)
      hasFault := true
  if hasFault then
    writeError ("Try '" ++ (← get).name ++ " --help' for more information.\n")
    setStatus 1
  else sys (.sleep total)

def signal? (s : String) : Option Signal :=
  match natural? s with
  | some n => if n < Signal.count then some n else none
  | none =>
    let name := String.ofList (s.toList.map Char.toUpper)
    Signal.ofName? (if name.startsWith "SIG" then String.ofList (name.toList.drop 3) else name)

/-- A child that ends after a time. It holds nothing open. -/
def timer (nanoseconds : Nat) : Tool Nat := do
  let open' := (← look).descriptors.map (·.1)
  let program : Act Unit := do
    open'.forM fun fd => do
      let _ ← Act.ask (.close fd)
    Act.ask (.sleep nanoseconds)
  act (Act.fork (program fun _ => .exit 0))

structure Watch where
  pid : Nat
  name : String
  signal : Signal
  isForeground : Bool
  isVerbose : Bool

def Watch.send (w : Watch) (s : Signal) : Tool Unit := do
  if w.isVerbose then
    complain ("sending signal " ++ Signal.name s ++ " to command " ++ quotedAlways w.name)
  let _ ← sys (.kill w.pid s)
  unless w.isForeground do
    let _ ← sys (.dispose s .ignore)
    let _ ← sys (.kill 0 s)
    if s ≠ Signal.kill && s ≠ Signal.resume then
      let _ ← sys (.kill w.pid Signal.resume)
      let _ ← sys (.kill 0 Signal.resume)

def Watch.go (w : Watch) (grace : Option Nat) : Nat → Option Nat → Bool → Tool (Exit × Bool)
  | 0, _, isOver => return (.code 0, isOver)
  | n + 1, clock, isOver => do
    match ← sys (.wait .anyChild .untilSignal) with
    | .ended pid exit =>
      if pid = w.pid then
        match clock with
        | some c =>
          let _ ← sys (.kill c Signal.kill)
          let _ ← await c
        | none => pure ()
        return (exit, isOver)
      else if some pid ≠ clock then w.go grace n clock isOver
      else
        let s := if isOver then Signal.kill else w.signal
        let next ← match isOver, grace with
          | false, some g => some <$> timer g
          | _, _ => pure none
        w.send s
        w.go grace n next true
    | .interrupted =>
      let signals ← sys .takeSignals
      signals.forM fun s => w.send s
      w.go grace n clock isOver
    | _ => return (.code 0, isOver)

def timeout (words : List String) : Tool Unit := do
  let g ← given [opt 'k' "kill-after" .argument, opt 's' "signal" .argument, opt 'v' "verbose",
    long "preserve-status", long "foreground"] words true 125
  let help : Tool Unit := do
    writeError ("Try '" ++ (← get).name ++ " --help' for more information.\n")
    setStatus 125
    stop
  let span (s : String) : Tool Nat := do
    match duration? s with
    | some n => return n
    | none => refuse 125 ("invalid time interval " ++ quotedAlways s)
  let grace ← (g.argument? "k").mapM span
  let signal ← match g.argument? "s" with
    | none => pure Signal.terminate
    | some s =>
      match signal? s with
      | some s => pure s
      | none => refuse 125 (quotedAlways s ++ ": invalid signal")
  match g.operands with
  | limit :: name :: rest =>
    let limit ← span limit
    let isForeground := g.has "foreground"
    unless isForeground do sys .lead
    [Signal.hangUp, Signal.interrupt, Signal.quit, Signal.terminate].forM fun s => do
      let _ ← sys (.dispose s .note)
    let environment := (← get).environment
    match ← locate environment name with
    | .error e =>
      fail (statusOf e) ("failed to run command " ++ quotedAlways name ++ ": " ++ e.message)
    | .ok path =>
      let pid ← spawn path (name :: rest) environment
      let clock ← if limit = 0 then pure none else some <$> timer limit
      let w : Watch := { pid, name, signal, isForeground, isVerbose := g.has "v" }
      let (exit, isOver) ← w.go grace Act.limit clock false
      match exit with
      | .code n => setStatus (if isOver && !g.has "preserve-status" then 124 else n)
      | .signal s =>
        if isOver then
          let isKept := g.has "preserve-status" || s = Signal.kill
          setStatus (if isKept then 128 + s else 124)
        else
          let _ ← sys (.dispose s .default)
          let _ ← sys (.kill (← look).pid s)
          setStatus (128 + s)
  | _ => help

def withVariable (environment : List (String × String)) (name value : String) :
    List (String × String) :=
  if environment.any (·.1 == name) then
    environment.map fun v => if v.1 == name then (name, value) else v
  else environment ++ [(name, value)]

def setting? (w : String) : Option (String × String) :=
  let cs := w.toList
  let name := cs.takeWhile (· ≠ '=')
  match cs.drop name.length with
  | _ :: value => some (String.ofList name, String.ofList value)
  | [] => none

def splitWords (s : String) : List String :=
  let step (state : List String × Option (List Char) × Option Char × Bool) (c : Char) :=
    let (done, word, quote, escaped) := state
    let add (c : Char) := some (c :: word.getD [])
    if escaped then
      (done, add (match c with | 'n' => '\n' | 't' => '\t' | '_' => ' ' | c => c), quote, false)
    else if c == '\\' && quote != some '\'' then (done, word, quote, true)
    else
      match quote with
      | some q => if c == q then (done, word, none, false) else (done, add c, quote, false)
      | none =>
        if c == '\'' || c == '"' then (done, some (word.getD []), some c, false)
        else if c == ' ' || c == '\t' || c == '\n' then
          match word with
          | some w => (String.ofList w.reverse :: done, none, none, false)
          | none => (done, none, none, false)
        else (done, add c, none, false)
  let (done, word, _, _) := s.toList.foldl step ([], none, none, false)
  (match word with
  | some w => String.ofList w.reverse :: done
  | none => done).reverse

def splitOption? (w : String) : Option String :=
  if w.startsWith "-S" then some (String.ofList (w.toList.drop 2))
  else if w.startsWith "--split-string=" then some (String.ofList (w.toList.drop 15))
  else none

def splitAll : List String → List String
  | "-S" :: text :: rest => splitWords text ++ rest
  | "--split-string" :: text :: rest => splitWords text ++ rest
  | w :: rest =>
    match splitOption? w with
    | some text => splitWords text ++ rest
    | none => if w.startsWith "-" then w :: splitAll rest else w :: rest
  | [] => []

def disposeSignals (options : List (String × String)) : Tool Unit := do
  for (key, value) in options do
    if key == "block-signal" || key == "default-signal" || key == "ignore-signal" then
      let named ← (value.splitOn ",").filterMapM fun word => do
        if word == "" then return none
        match signal? word with
        | some 0 | none => refuse 125 (marked word ++ ": invalid signal")
        | some s => return some s
      let isFixed (s : Signal) : Bool := s = Signal.kill || s = Signal.stop
      let signals := if value == "" then
          ((List.range Signal.count).drop 1).filter fun s => !isFixed s && s ≠ 32 && s ≠ 33
        else named
      if key != "block-signal" then
        for s in signals do
          if isFixed s then
            fail 125 ("failed to set signal action for signal " ++ toString s ++
              ": Invalid argument")
          let _ ← sys (.dispose s (if key == "ignore-signal" then .ignore else .default))

def env (words : List String) : Tool Unit := do
  let g ← given [opt 'i' "ignore-environment", opt '0' "null", opt 'u' "unset" .argument,
    opt 'C' "chdir" .argument, opt 'v' "debug", long "block-signal" .maybe,
    long "default-signal" .maybe, long "ignore-signal" .maybe, long "list-signal-handling"]
    (splitAll words) true 125
  disposeSignals g.options
  let isEmpty := g.has "i" || g.operands.head? == some "-"
  let words := if g.operands.head? == some "-" then g.operands.drop 1 else g.operands
  let inherited := (← get).environment
  let mut environment := if isEmpty then [] else inherited
  for name in g.argumentsOf "u" do
    if name == "" || name.toList.contains '=' then
      fail 125 ("cannot unset " ++ quotedAlways name ++ ": Invalid argument")
    environment := environment.filter (·.1 ≠ name)
  let settings := words.takeWhile fun w => (setting? w).isSome
  for w in settings do
    match setting? w with
    | some (name, value) => environment := withVariable environment name value
    | none => pure ()
  let command := words.drop settings.length
  if g.has "0" && !command.isEmpty then
    refuse 125 "cannot specify --null (-0) with command"
  match g.argument? "C" with
  | some directory =>
    if command.isEmpty then refuse 125 "must specify command with --chdir (-C)"
    match ← sys (.goTo directory) with
    | .ok _ => pure ()
    | .error e =>
      fail 125 ("cannot change directory to " ++ quotedAlways directory ++ ": " ++ e.message)
  | none => pure ()
  if command.isEmpty then
    for (name, value) in environment do
      put (name ++ "=" ++ value ++ (if g.has "0" then "\x00" else "\n"))
  else
    if g.has "v" then
      writeError ("executing: " ++ command.headD "" ++ "\n" ++
        String.join (command.zipIdx.map fun (w, i) =>
          "   arg[" ++ toString i ++ "]= " ++ quotedAlways w ++ "\n"))
    launch command environment

def printenv (words : List String) : Tool Unit := do
  let g ← given [opt '0' "null"] words true 2
  let finish := if g.has "0" then "\x00" else "\n"
  let environment := (← get).environment
  if g.operands.isEmpty then
    for (name, value) in environment do
      put (name ++ "=" ++ value ++ finish)
  else
    for name in g.operands do
      match environment.lookup name with
      | some value => put (value ++ finish)
      | none => setStatus 1

def isAdjustment (w : String) : Bool :=
  match w.toList with
  | '-' :: c :: rest =>
    c.isDigit || ((c == '-' || c == '+') && (rest.head?.any Char.isDigit))
  | _ => false

def integer? (s : String) : Option Int :=
  match s.toList with
  | '-' :: cs => (natural? (String.ofList cs)).map fun n => -(n : Int)
  | '+' :: cs => (natural? (String.ofList cs)).map fun n => (n : Int)
  | cs => (natural? (String.ofList cs)).map fun n => (n : Int)

def nice (words : List String) : Tool Unit := do
  let words := words.zipIdx.map fun (w, i) =>
    if i = 0 && isAdjustment w then "-n" ++ String.ofList (w.toList.drop 1) else w
  let g ← given [opt 'n' "adjustment" .argument] words true 125
  let adjustment ← (g.argument? "n").mapM fun s => do
    match integer? s with
    | some n => pure n
    | none => fail 125 ("invalid adjustment " ++ quotedAlways s)
  match g.operands, adjustment with
  | [], none => putLine (toString (← sys (.renice 0)))
  | [], some _ => refuse 125 "a command must be given with an adjustment"
  | command, n =>
    let _ ← sys (.renice (n.getD 10))
    launch command (← get).environment

def nohup (words : List String) : Tool Unit := do
  let g ← given [] words true 125
  demand g 1 125
  let _ ← sys (.dispose Signal.hangUp .ignore)
  launch g.operands (← get).environment fun name => "failed to run command " ++ quotedAlways name

def setsid (words : List String) : Tool Unit := do
  let g ← given (letters "cfwVh") words true
  if g.operands.isEmpty then fail 1 "no command specified"
  sys .lead
  launch g.operands (← get).environment fun name => "failed to execute " ++ name

def stdbuf (words : List String) : Tool Unit := do
  let g ← given [opt 'i' "input" .argument, opt 'o' "output" .argument, opt 'e' "error" .argument]
    words true 125
  demand g 1 125
  for (key, value) in g.options do
    if value == "L" then
      if key == "i" then refuse 125 "line buffering stdin is meaningless"
    else
      match sized "EGkKMPTYZ0" value with
      | .ok _ => pure ()
      | .error .tooGreat =>
        fail 125 ("invalid mode " ++ marked value ++ ": Value too large for defined data type")
      | .error _ => fail 125 ("invalid mode " ++ marked value)
  if g.options.isEmpty then refuse 125 "you must specify a buffering mode option"
  launch g.operands (← get).environment fun name => "failed to run command " ++ quotedAlways name

structure Gathering where
  command : List String
  most : Option Nat := none
  lines : Option Nat := none
  pattern : Option String := none
  separator : Option Char := none
  finish : Option String := none
  size : Nat := 131072
  stopsWhenLong : Bool := false
  isShown : Bool := false
  asks : Bool := false
  runsOnNothing : Bool := true
  atOnce : Nat := 1
  source : Source := .nothing

structure Gathered where
  arguments : List String := []
  running : List Nat := []
  hasRun : Bool := false

namespace Gathering

def awaitOne (x : Gathering) (s : Gathered) : Tool Gathered := do
  match ← sys (.wait .anyChild .always) with
  | .ended pid exit =>
    let name := x.command.headD ""
    match exit with
    | .code 0 => pure ()
    | .code 255 => fail 124 (name ++ ": exited with status 255; aborting")
    | .code _ => note 123
    | .signal n => fail 125 (name ++ ": terminated by signal " ++ toString n)
    return { s with running := s.running.filter (· ≠ pid) }
  | _ => return { s with running := [] }

def run (x : Gathering) (words : List String) (s : Gathered) : Tool Gathered := do
  let s := { s with hasRun := true }
  if x.isShown || x.asks then
    flush
    writeError (" ".intercalate (words.map quotedWord) ++ if x.asks then "" else "\n")
  if x.asks then
    fail 1 "failed to open /dev/tty for reading: No such device or address"
  let environment := (← get).environment
  match ← locate environment (words.headD "") with
  | .error e => fail (statusOf e) (words.headD "" ++ ": " ++ e.message)
  | .ok path =>
    let s ← if s.running.length ≥ x.atOnce then x.awaitOne s else pure s
    let pid ← spawn path words environment x.source
    let s := { s with running := s.running ++ [pid] }
    if x.atOnce = 1 then x.awaitOne s else return s

def lengthOf (words : List String) : Nat := words.foldl (fun n w => n + w.utf8ByteSize + 1) 0

def runAll (x : Gathering) (s : Gathered) : Tool Gathered :=
  x.run (x.command ++ s.arguments.reverse) { s with arguments := [] }

def add (x : Gathering) (w : String) (s : Gathered) : Tool Gathered := do
  let length := lengthOf x.command + lengthOf s.arguments
  let isLong := length + w.utf8ByteSize + 1 > x.size
  let s ← if !isLong then pure s
    else if s.arguments.isEmpty then fail 1 "argument line too long"
    else if x.lines.isSome || x.stopsWhenLong && x.most.isSome then
      fail 1 "argument list too long"
    else x.runAll s
  let s := { s with arguments := w :: s.arguments }
  if x.most.any (s.arguments.length ≥ ·) then x.runAll s else return s

end Gathering

def replaced (s pattern by' : String) : String :=
  if pattern == "" then s else by'.intercalate (s.splitOn pattern)

inductive Item where
  | word (s : String)
  | line
  | unmatched (quote : Char)

/-- Reads the words of an input; where `byLines` is set a word goes on to the end of the line. -/
def items (byLines : Bool) :
    Nat → List Char → Option (List Char) → Option Char → List Item → List Item
  | 0, _, _, _, done => done.reverse
  | _, [], _, some q, done => (.unmatched q :: done).reverse
  | _, [], word, none, done =>
    (match word with
    | some w => Item.word (String.ofList w.reverse) :: done
    | none => done).reverse
  | n + 1, c :: rest, word, some q, done =>
    if c == '\n' then (.unmatched q :: done).reverse
    else if c == q then items byLines n rest (some (word.getD [])) none done
    else items byLines n rest (some (c :: word.getD [])) (some q) done
  | n + 1, c :: rest, word, none, done =>
    let isBlank (c : Char) := c == ' ' || c == '\t'
    let ended := match word with
      | some w => Item.word (String.ofList w.reverse) :: done
      | none => done
    if c == '\n' then
      -- behind a blank the line goes on; an empty line is none
      items byLines n rest none none (if word.isSome then .line :: ended else done)
    else if isBlank c && (!byLines || word.isNone) then
      items byLines n rest none none ended
    else if c == '\'' || c == '"' then items byLines n rest word (some c) done
    else if c == '\\' then
      match rest with
      | d :: rest => items byLines n rest (some (d :: word.getD [])) none done
      | [] => items byLines n [] word none done
    else items byLines n rest (some (c :: word.getD [])) none done

def gather (x : Gathering) : List Item → Nat → Gathered → Tool Gathered
  | [], _, s => return s
  | .unmatched q :: _, _, s => do
    if x.pattern.isNone && !s.arguments.isEmpty && !x.stopsWhenLong then
      let _ ← x.runAll s
    fail 1 ("unmatched " ++ (if q == '"' then "double" else "single") ++
      " quote; by default quotes are special to xargs unless you use the -0 option")
  | .line :: rest, n, s => do
    let n := n + 1
    if x.pattern.isNone && x.lines.any (n ≥ ·) && !s.arguments.isEmpty then
      gather x rest 0 (← x.runAll s)
    else gather x rest n s
  | .word w :: rest, n, s => do
    if x.finish == some w then return s
    match x.pattern with
    | some pattern =>
      if w.utf8ByteSize + 1 > x.size then fail 1 "argument line too long"
      let words := x.command.map fun a => replaced a pattern w
      if words.any (·.utf8ByteSize + 1 > x.size) then fail 1 "command too long"
      if Gathering.lengthOf words > x.size then fail 1 "argument list too long"
      gather x rest n (← x.run words s)
    | none => gather x rest n (← x.add w s)

def separator? (s : String) : Option Char :=
  match s.toList with
  | [c] => some c
  | '\\' :: cs =>
    match cs with
    | ['n'] => some '\n'
    | ['t'] => some '\t'
    | ['r'] => some '\r'
    | ['0'] => some '\x00'
    | ['a'] => some '\x07'
    | ['b'] => some '\x08'
    | ['f'] => some '\x0c'
    | ['v'] => some '\x0b'
    | ['\\'] => some '\\'
    | 'x' :: digits => some (Char.ofNat (Decimal.Quantity.digitsValue 16 digits))
    | digits => if digits.all Char.isDigit then
        some (Char.ofNat (Decimal.Quantity.digitsValue 8 digits)) else none
  | _ => none

def xargsOptions : List Opt :=
  [opt '0' "null", opt 'a' "arg-file" .argument, opt 'd' "delimiter" .argument,
    opt 'E' "" .argument, opt 'e' "eof" .maybe, opt 'I' "" .argument, opt 'i' "replace" .maybe,
    opt 'L' "" .argument, opt 'l' "max-lines" .maybe, opt 'n' "max-args" .argument,
    opt 'P' "max-procs" .argument, opt 'p' "interactive", opt 'r' "no-run-if-empty",
    opt 's' "max-chars" .argument, opt 't' "verbose", opt 'x' "exit", opt 'o' "open-tty",
    long "process-slot-var" .argument, long "show-limits"]

/-- Takes the options one after another; of those that exclude each other the last one holds. -/
def gathering (x : Gathering) : List (String × String) → Tool Gathering
  | [] => return x
  | (key, value) :: rest => do
    let number (least : Nat) : Tool Nat := do
      match natural? value with
      | some n =>
        if n < least then
          refuse 1 ("value " ++ value ++ " for -" ++ key ++ " option should be >= " ++ toString least)
        return n
      | none => refuse 1 ("invalid number \"" ++ value ++ "\" for -" ++ key ++ " option")
    let exclude (old now : String) (isThere : Bool) : Tool Unit := do
      if isThere then
        complain ("warning: options " ++ old ++ " and " ++ now ++
          " are mutually exclusive, ignoring previous " ++ old ++ " value")
    match key with
    | "0" => gathering { x with separator := some '\x00' } rest
    | "d" =>
      match separator? value with
      | some c => gathering { x with separator := some c } rest
      | none =>
        fail 1 ("Invalid input delimiter specification " ++ value ++ ": the delimiter must be " ++
          "either a single character or an escape sequence starting with \\.")
    | "E" | "e" => gathering { x with finish := if value == "" then none else some value } rest
    | "I" | "i" =>
      exclude "--max-args" "--replace/-I/-i" x.most.isSome
      exclude "--max-lines" "--replace/-I/-i" x.lines.isSome
      let pattern := if key == "i" && value == "" then "\x7b\x7d" else value
      gathering { x with pattern := some pattern, most := none, lines := none } rest
    | "L" =>
      let n ← number 1
      exclude "--replace" "-L" x.pattern.isSome
      exclude "--max-args" "-L" x.most.isSome
      gathering { x with lines := some n, most := none, pattern := none } rest
    | "l" =>
      let n ← if value == "" then pure 1 else number 1
      exclude "--replace" "--max-lines/-l" x.pattern.isSome
      exclude "--max-args" "--max-lines/-l" x.most.isSome
      gathering { x with lines := some n, most := none, pattern := none } rest
    | "n" =>
      let n ← number 1
      -- each argument is put in a place of its own in any case
      if n = 1 && x.pattern.isSome then gathering x rest
      else
        exclude "--replace" "--max-args/-n" x.pattern.isSome
        exclude "--max-lines" "--max-args/-n" x.lines.isSome
        gathering { x with most := some n, lines := none, pattern := none } rest
    | "P" =>
      let n ← number 0
      gathering { x with atOnce := if n = 0 then 1000000 else n } rest
    | "s" =>
      let n ← number 1
      gathering { x with size := n } rest
    | "x" => gathering { x with stopsWhenLong := true } rest
    | "t" => gathering { x with isShown := true } rest
    | "p" => gathering { x with asks := true } rest
    | "r" => gathering { x with runsOnNothing := false } rest
    | "a" => gathering { x with source := .same } rest
    | _ => gathering x rest

def xargs (words : List String) : Tool Unit := do
  let g ← given xargsOptions words true
  let x ← gathering
    { command := if g.operands.isEmpty then ["echo"] else g.operands } g.options
  if x.pattern.isNone && Gathering.lengthOf x.command > x.size then
    fail 1 "cannot fit single argument within argument list size limit"
  let path := (g.argument? "a").getD "-"
  let text ← match ← readAll path with
    | .ok text => pure text
    | .error e => fail 1 ("Cannot open input file " ++ quotedAlways path ++ ": " ++ e.message)
  let read := match x.separator with
    | some c =>
      let (pieces, _) := linesOf text c
      pieces.flatMap fun s => [Item.word s, Item.line]
    | none => items x.pattern.isSome (text.length + 1) text.toList none none []
  let s ← gather { x with finish := if x.separator.isSome then none else x.finish } read 0 {}
  let isDue := !s.arguments.isEmpty || (!s.hasRun && x.runsOnNothing && x.pattern.isNone)
  let s ← if isDue then x.runAll s else pure s
  let rec drain : Nat → Gathered → Tool Unit
    | 0, _ => pure ()
    | n + 1, s => do
      if !s.running.isEmpty then drain n (← x.awaitOne s)
  drain s.running.length s

def catalogue : List (String × (List String → Tool Unit)) := [
  ("sleep", sleep),
  ("timeout", timeout),
  ("env", env),
  ("printenv", printenv),
  ("nice", nice),
  ("nohup", nohup),
  ("setsid", setsid),
  ("stdbuf", stdbuf),
  ("xargs", xargs)]

end Remedy.Tool.Running
