import Remedy.Shell.Arithmetic
import Remedy.Tool.Editing.Script
import Remedy.Tool.Input
import Remedy.Tool.Running

namespace Remedy.Tool.Editing

open Unix Files

structure Space where
  text : String := ""
  isEnded : Bool := true

inductive Queued where
  | text (s : String)
  | file (path : String)

inductive Range where
  | outside
  | inside (finish : Option Nat)
  | past

/-- Where lines go: to the output, or to a file that a command names. -/
inductive Sink where
  | output
  | file (path : String)
deriving DecidableEq

structure Stream where
  commands : Array Command
  input : Input
  ahead : Option (Option (String × Bool)) := none
  number : Nat := 0
  space : Space := {}
  hold : Space := {}
  queue : List Queued := []
  lastRegex : Option Regex.Compiled := none
  hasReplaced : Bool := false
  ranges : Array Range
  outputs : List (String × Nat) := []
  sources : List (String × Input) := []
  unended : List Sink := []
  isQuiet : Bool := false
  isUnbuffered : Bool := false
  separator : Char := '\n'
  width : Nat := 70
  captured : Option (List String) := none

abbrev Edit := StateT Stream Tool

def emit (to' : Sink) (s : String) : Edit Unit := do
  let print : Edit Unit := put s
  match to' with
  | .output =>
    match (← get).captured with
    | some pieces => modify fun t => { t with captured := some (s :: pieces) }
    | none => print
  | .file "/dev/stdout" => print
  | .file path =>
    flush
    match (← get).outputs.lookup path with
    | some fd =>
      let _ ← act (Act.writeTo fd s)
    | none => pure ()

def endLine (to' : Sink) : Edit Unit := do
  if (← get).unended.contains to' then
    emit to' "\n"
    modify fun t => { t with unended := t.unended.filter (· ≠ to') }

def emitSpace (to' : Sink) (s : Space) : Edit Unit := do
  endLine to'
  if s.isEnded then emit to' (s.text.push (← get).separator)
  else
    emit to' s.text
    modify fun t => { t with unended := to' :: t.unended }

def emitText (s : String) : Edit Unit := do
  endLine .output
  emit .output s

def lookAhead : Edit (Option (String × Bool)) := do
  let t ← get
  match t.ahead with
  | some found => return found
  | none =>
    let (found, input) ← t.input.next
    modify fun t => { t with input, ahead := some found }
    return found

/-- Takes the next line, behind what is in the space if `more` says so; tells whether there is one. -/
def takeLine (more : Bool) : Edit Bool := do
  match ← lookAhead with
  | none => return false
  | some (line, isEnded) =>
    modify fun t =>
      let text := if more then t.space.text ++ (String.singleton t.separator) ++ line else line
      { t with ahead := none, number := t.number + 1, space := { text, isEnded } }
    return true

def emitQueue : Edit Unit := do
  let queue := (← get).queue
  modify ({ · with queue := [] })
  queue.reverse.forM fun
    | .text s => emitText s
    | .file path => do
      match ← readAll (if path == "/dev/stdin" then "-" else path) with
      | .ok s => if s != "" then emitText s
      | .error _ => pure ()

def printedBy (command : String) : Edit String := do
  let environment := (← getThe Tool.State).environment
  let (reading, writing) ← sys .pipe
  let child : Act Errno := do
    let _ ← Act.ask (.copyTo writing 1)
    [reading, writing].forM fun fd => do
      let _ ← Act.ask (.close fd)
    Running.become "/bin/sh" ["sh", "-c", command] environment
  let pid ← act (Act.fork (child fun e => .exit (Running.statusOf e)))
  let _ ← sys (.close writing)
  let text ← act (Act.readAll reading)
  let _ ← sys (.close reading)
  let _ ← Running.await pid
  return text.toOption.getD ""

def withoutEnd (s : String) : String :=
  if s.endsWith "\n" then String.ofList s.toList.dropLast else s

def search (s : Searched) (text : Array Char) (start : Nat) : Edit (Option Regex.Found) := do
  let r ← match s.regex with
    | some r => pure r
    | none =>
      match (← get).lastRegex with
      | some r => pure r
      | none => fail 1 "-e expression #1, char 0: no previous regular expression"
  modify ({ · with lastRegex := some r })
  return Regex.search? r { multiline := s.multiline } text start

def fits (a : Address) : Edit Bool := do
  let t ← get
  match a with
  | .number n => return t.number = n
  | .last => return (← lookAhead).isNone
  | .matching s => return (← search s t.space.text.toList.toArray 0).isSome
  | .every first step =>
    return if step = 0 then t.number = first
      else t.number ≥ first && (t.number - first) % step = 0
  | .further _ | .multiple _ => return false

def isMeant (i : Nat) (a : Addresses) : Edit Bool := do
  let t ← get
  let enter (r : Range) : Edit Unit :=
    modify fun t => { t with ranges := t.ranges.setIfInBounds i r }
  let found : Bool ← match a.first, a.second with
    | none, _ => pure true
    | some first, none => fits first
    | some first, some second =>
      match t.ranges.getD i .outside with
      | .inside (some finish) =>
        if t.number ≥ finish then enter .past
        pure (t.number ≤ finish)
      | .inside none =>
        if ← fits second then enter .past
        pure true
      | _ =>
        if ← fits first then
          let upTo (n : Nat) : Edit Unit := do
            if n > t.number then enter (.inside (some n)) else enter .past
          match second with
          | .number n => upTo n
          | .further n => upTo (t.number + n)
          | .multiple n => upTo (if n = 0 then 0 else (t.number / n + 1) * n)
          | _ => enter (.inside none)
          pure true
        else pure false
  return found != a.isNegated

/-- A text whose letters change their case as the marks before it say. -/
structure Cased where
  pieces : List String := []
  mode : Case := .keep
  once : Case := .keep

def Cased.add (c : Cased) (s : String) : Cased :=
  if s == "" then c
  else
    let whole := match c.mode with
      | .upper => s.toUpper
      | .lower => s.toLower
      | _ => s
    let changed := match c.once, whole.toList with
      | .upperNext, x :: xs => String.ofList (x.toUpper :: xs)
      | .lowerNext, x :: xs => String.ofList (x.toLower :: xs)
      | _, _ => whole
    { c with pieces := changed :: c.pieces, once := .keep }

def Cased.mark (c : Cased) : Case → Cased
  | .upperNext => { c with once := .upperNext }
  | .lowerNext => { c with once := .lowerNext }
  | mode => { c with mode, once := .keep }

def replaced (pieces : List Piece) (text : Array Char) (f : Regex.Found) : String :=
  let c := pieces.foldl (fun (c : Cased) p =>
    match p with
    | .text s => c.add s
    | .group n =>
      match f.group? n with
      | some (a, b) => c.add (String.ofList (text.extract a b).toList)
      | none => c
    | .case k => c.mark k) {}
  String.join c.pieces.reverse

/-- Replaces matches from the one with the number `left` on; tells whether there was one. -/
def substituteFrom (s : Substitution) (text : Array Char) :
    Nat → Nat → Nat → Option Nat → List String → Bool → Edit (List String × Bool)
  | 0, _, _, _, done, hit => return (done, hit)
  | fuel + 1, start, count, last, done, hit => do
    let piece (a b : Nat) : String := String.ofList (text.extract a b).toList
    if start > text.size then return (done, hit)
    else
      match ← search s.searched text start with
      | none => return (piece start text.size :: done, hit)
      | some f =>
        if f.start = f.stop && last == some f.start then
          -- nothing is matched right behind a match
          if f.start ≥ text.size then return (piece start text.size :: done, hit)
          else
            substituteFrom s text fuel (f.start + 1) count none
              (piece start (f.start + 1) :: done) hit
        else
          let count := count + 1
          let before := piece start f.start
          if count < s.nth then
            substituteFrom s text fuel f.stop count (some f.stop)
              (piece start f.stop :: done) hit
          else
            let done := replaced s.replacement text f :: before :: done
            if s.isGlobal then substituteFrom s text fuel f.stop count (some f.stop) done true
            else return (piece f.stop text.size :: done, true)

def substitute (s : Substitution) : Edit Unit := do
  let text := (← get).space.text.toList.toArray
  let (pieces, hit) ← substituteFrom s text (2 * text.size + 4) 0 0 none [] false
  if hit then
    modify fun t => { t with
      space := { t.space with text := String.join pieces.reverse }, hasReplaced := true }
    if s.printsBefore then emitSpace .output (← get).space
    if s.isCommand then
      let text := withoutEnd (← printedBy (← get).space.text)
      modify fun t => { t with space := { t.space with text } }
    if s.prints && !s.printsBefore then emitSpace .output (← get).space
    match s.output with
    | some path => emitSpace (.file path) (← get).space
    | none => pure ()

def listed (s : String) (width : Nat) : String :=
  let cells := s.toList.map fun c =>
    match c with
    | '\\' => "\\\\"
    | '\x07' => "\\a"
    | '\x08' => "\\b"
    | '\x0c' => "\\f"
    | '\n' => "\\n"
    | '\r' => "\\r"
    | '\t' => "\\t"
    | '\x0b' => "\\v"
    | c =>
      if ' ' ≤ c && c < '\x7f' then String.singleton c
      else
        let ds := String.ofList (Nat.toDigits 8 c.toNat)
        "\\" ++ "".pushn '0' (3 - ds.length) ++ ds
  let (text, _) := cells.foldl (fun (text, column) cell =>
    if width > 1 && column + cell.length > width - 1 then (text ++ "\\\n" ++ cell, cell.length)
    else (text ++ cell, column + cell.length)) ("", 0)
  text ++ "$\n"

def firstLine (s : String) (separator : Char) : String :=
  String.ofList (s.toList.takeWhile (· ≠ separator))

inductive Ending where
  | normal
  | deleted
  | again
  | quit (status : Nat) (silently : Bool)

def runFrom : Nat → Nat → Edit Ending
  | 0, _ => return .normal
  | fuel + 1, i => do
    let t ← get
    match t.commands[i]? with
    | none => return .normal
    | some c =>
      if !(← isMeant i c.addresses) then
        match c.action with
        | .beginBlock finish => runFrom fuel finish
        | _ => runFrom fuel (i + 1)
      else
        let t ← get
        let on := runFrom fuel (i + 1)
        let jump (target : Nat) : Edit Ending := do
          sys .pause
          runFrom fuel target
        match c.action with
        | .beginBlock _ | .endBlock | .nothing => on
        | .append s =>
          modify fun t => { t with queue := .text s :: t.queue }
          on
        | .insert s =>
          emitText s
          on
        | .change s =>
          let isInside := match t.ranges.getD i .outside with
            | .inside _ => true
            | _ => false
          if c.addresses.second.isNone || c.addresses.isNegated || !isInside then emitText s
          return .deleted
        | .branch target => jump target
        | .branchIf target =>
          modify ({ · with hasReplaced := false })
          if t.hasReplaced then jump target else on
        | .branchUnless target =>
          modify ({ · with hasReplaced := false })
          if t.hasReplaced then on else jump target
        | .delete => return .deleted
        | .deleteFirst =>
          if t.space.text.toList.contains '\n' then
            let rest := (t.space.text.toList.dropWhile (· ≠ '\n')).drop 1
            modify fun t => { t with space := { t.space with text := String.ofList rest } }
            return .again
          else return .deleted
        | .execute command =>
          if command == "" then
            let text := withoutEnd (← printedBy t.space.text)
            modify fun t => { t with space := { text } }
          else emitText (← printedBy command)
          on
        | .getHold =>
          modify fun t => { t with space := t.hold }
          on
        | .addHold =>
          modify fun t => { t with
            space := { t.hold with
              text := t.space.text ++ String.singleton t.separator ++ t.hold.text } }
          on
        | .hold =>
          modify fun t => { t with hold := t.space }
          on
        | .holdMore =>
          modify fun t => { t with
            hold := { t.space with
              text := t.hold.text ++ String.singleton t.separator ++ t.space.text } }
          on
        | .exchange =>
          modify fun t => { t with hold := t.space, space := t.hold }
          on
        | .list width =>
          let width := width.getD t.width
          emitText (listed t.space.text width)
          on
        | .next =>
          if (← lookAhead).isNone then return .normal
          else
            unless t.isQuiet do emitSpace .output t.space
            emitQueue
            let _ ← takeLine false
            on
        | .nextMore =>
          if (← lookAhead).isNone then return .normal
          else
            emitQueue
            let _ ← takeLine true
            on
        | .print =>
          emitSpace .output t.space
          on
        | .printFirst =>
          emitSpace .output { text := firstLine t.space.text '\n' }
          on
        | .quit status => return .quit status false
        | .quitSilently status => return .quit status true
        | .read path =>
          modify fun t => { t with queue := .file path :: t.queue }
          on
        | .readLine path =>
          let source := (t.sources.lookup path).getD
            { Input.ofPaths [path] with complaint := fun _ _ => "" }
          let there ← match source.descriptor, source.paths with
            | none, [p] => do pure ((← look).exists? p)
            | _, _ => pure true
          if there then
            let (found, source) ← source.next
            modify fun t => { t with
              sources := (path, source) :: t.sources.filter (·.1 != path)
              queue := match found with
                | some (line, isEnded) =>
                  .text (if isEnded then line ++ "\n" else line) :: t.queue
                | none => t.queue }
          on
        | .substitute s =>
          substitute s
          on
        | .write path =>
          emitSpace (.file path) t.space
          on
        | .writeFirst path =>
          emitSpace (.file path) { text := firstLine t.space.text '\n' }
          on
        | .translate pairs =>
          modify fun t => { t with
            space := { t.space with
              text := t.space.text.map fun c => (pairs.lookup c).getD c } }
          on
        | .number =>
          emitText (toString t.number ++ "\n")
          on
        | .name =>
          emitText (t.input.path ++ "\n")
          on
        | .clear =>
          modify fun t => { t with space := { t.space with text := "" } }
          on

/-- Goes through the lines; a status tells that the script was left. -/
def cycles : Nat → Bool → Edit (Option Nat)
  | 0, _ => return none
  | fuel + 1, keepsSpace => do
    let goes ← if keepsSpace then pure true else takeLine false
    if !goes then return none
    else
      if !keepsSpace then modify ({ · with hasReplaced := false })
      match ← runFrom Act.limit 0 with
      | .normal =>
        let t ← get
        unless t.isQuiet do emitSpace .output t.space
        emitQueue
        if t.isUnbuffered then flush
        cycles fuel false
      | .deleted =>
        emitQueue
        cycles fuel false
      | .again =>
        emitQueue
        cycles fuel true
      | .quit status silently =>
        unless silently do
          let t ← get
          unless t.isQuiet do emitSpace .output t.space
          emitQueue
        return some status

def scriptOf (g : Given) : Tool (String × List String) := do
  let parts := g.options.filter fun o => o.1 == "e" || o.1 == "f"
  if parts.isEmpty then
    match g.operands with
    | [] =>
      flush
      let name := (← get).name
      writeError (usage name)
      setStatus 1
      stop
    | script :: rest => return (script, rest)
  else
    let texts ← parts.mapM fun (key, argument) => do
      if key == "e" then return argument
      else
        match ← readAll argument with
        | .ok text =>
          let cs := text.toList
          return if cs.getLast? == some '\n' then String.ofList cs.dropLast else text
        | .error e => fail 1 ("couldn't open file " ++ argument ++ ": " ++ e.message)
    return ("\n".intercalate texts, g.operands)
where
  usage (name : String) : String :=
    "Usage: " ++ name ++ " [OPTION]... \x7bscript-only-if-no-other-script\x7d [input-file]...\n\n"

def writtenPaths (commands : Array Command) : List String :=
  (commands.toList.filterMap fun c =>
    match c.action with
    | .write path | .writeFirst path => some path
    | .substitute s => s.output
    | _ => none).eraseDups

def options : List Opt :=
  [{ letter := some 'n', names := ["quiet", "silent"] }, opt 'e' "expression" .argument,
    opt 'f' "file" .argument, opt 'i' "in-place" .maybe, opt 'E' "regexp-extended", opt 'r' "",
    opt 's' "separate", opt 'u' "unbuffered", opt 'z' "null-data", opt 'l' "line-length" .argument,
    long "posix", long "debug", long "sandbox", long "follow-symlinks"]

/-- The name under which a file is kept when it is edited in its place. -/
def savedName (path suffix : String) : String :=
  if suffix.toList.contains '*' then
    let name := baseName path
    let saved := suffix.replace "*" name
    if saved.toList.contains '/' then saved
    else String.ofList (path.toList.take (path.length - name.length)) ++ saved
  else path ++ suffix

def sed (words : List String) : Tool Unit := do
  let g ← match readOptions options false (words.length + 1) words with
    | .ok g => pure g
    | .error e => do
      complain e.message
      writeError (scriptOf.usage (← get).name)
      setStatus 1
      stop
  let (script, operands) ← scriptOf g
  let commands ← match read script (g.has "E" || g.has "r") with
    | .ok cs => pure cs
    | .error (.noLabel name) => fail 1 ("can't find label for jump to `" ++ name ++ "'")
    | .error (.at place message) =>
      if place = bareClassPlace then fail 1 message
      let inFile := g.options.find? fun o => o.1 == "e" || o.1 == "f"
      match inFile with
      | some ("f", path) =>
        let line := ((script.toList.take place).countP (· == '\n')) + 1
        fail 1 ("file " ++ path ++ " line " ++ toString line ++ ": " ++ message)
      | _ => fail 1 ("-e expression #1, char " ++ toString place ++ ": " ++ message)
  let inPlace := g.argument? "i"
  let isApart := g.has "s" || inPlace.isSome
  let outputs ← (writtenPaths commands).filterMapM fun path => do
    if path == "/dev/stdout" then return none
    else if path == "/dev/stderr" then return some (path, 2)
    else
      match ← sys (.open path .output) with
      | .ok fd => return some (path, fd)
      | .error e => fail 4 ("couldn't open file " ++ path ++ ": " ++ e.message)
  let separator := if g.has "z" then '\x00' else '\n'
  let ranges := commands.map fun c =>
    match c.addresses.first, c.addresses.second with
    | some (.number 0), some (.matching _) => Range.inside none
    | _, _ => Range.outside
  let inputOf (paths : List String) : Input :=
    { Input.ofPaths paths with
      separator, status := 2
      complaint := fun path e =>
        if e = .isDirectory then "couldn't edit " ++ path ++ ": not a regular file"
        else "can't read " ++ path ++ ": " ++ e.message }
  let operands := if operands.isEmpty then ["-"] else operands
  let t : Stream := {
    commands, ranges, outputs, separator
    input := inputOf operands
    isQuiet := g.has "n" || script.startsWith "#n\n" || script == "#n"
    isUnbuffered := g.has "u"
    width := ((g.argument? "l").bind natural?).getD 70 }
  let finish (status : Option Nat) : Tool Unit := do
    match status with
    | some n => if n ≠ 0 || (← get).status = 0 then setStatus n
    | none => pure ()
  if !isApart then
    let (status, _) ← (cycles Act.limit false).run (reading t)
    finish status
  else
    let rec go : List String → Stream → Tool Unit
      | [], _ => return
      | path :: rest, t => do
        let v ← look
        let kind := (v.status path true).toOption.map (·.kind)
        if inPlace.isSome && kind.isSome && kind != some .regular then
          complain ("couldn't edit " ++ path ++ ": not a regular file")
          note 4
          go rest t
        else
          let t := { t with
            input := inputOf [path], ahead := none, number := 0
            captured := if inPlace.isSome then some [] else none }
          let (status, t) ← (cycles Act.limit false).run (reading t)
          match inPlace, kind with
          | some suffix, some _ =>
            let text := String.join ((t.captured.getD []).reverse)
            if suffix != "" then
              let _ ← act (Act.ask (.change (.rename path (savedName path suffix))))
            let mode := ((v.status path true).toOption.elim 420 (·.mode))
            match ← sys (.open path { Opening.output with mode }) with
            | .ok fd =>
              let _ ← act (Act.writeTo fd text)
              let _ ← sys (.close fd)
              if suffix != "" then
                let _ ← act (Act.ask (.change (.setMode path mode)))
            | .error e =>
              fail 4 ("couldn't open temporary file " ++ path ++ ": " ++ e.message)
          | _, _ => pure ()
          match status with
          | some n => finish (some n)
          | none => go rest { t with unended := t.unended.filter (· ≠ .output), captured := none }
    go operands t
where
  reading (t : Stream) : Stream :=
    { t with input := { t.input with
        ending? := fun e => if e = .isDirectory then some 4 else none
        complaint := fun path e =>
          if e = .isDirectory then "read error on " ++ path ++ ": " ++ e.message
          else "can't read " ++ path ++ ": " ++ e.message } }

def catalogue : List (String × (List String → Tool Unit)) := [("sed", sed)]

end Remedy.Tool.Editing
