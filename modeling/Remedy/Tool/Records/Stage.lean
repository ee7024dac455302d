import Remedy.Tool.Records.Reading
import Remedy.Tool.Records.Table
import Remedy.Tool.Running

namespace Remedy.Tool.Records

open Unix Files

inductive Slot where
  | nothing
  | value (v : Value)
  | table (n : Nat)
  /-- Nothing so far; used as a table it is that one. -/
  | maybe (n : Nat)
deriving Inhabited

structure Source where
  fd : Nat
  rest : List Char := []
  isOver : Bool := false

structure Inflow where
  name : String
  pid : Option Nat
  source : Source

structure Outflow where
  name : String
  pid : Option Nat
  fd : Nat
  pieces : List String := []
  size : Nat := 0

structure Stage where
  functions : Array Function
  names : Array String
  shared : Array Slot
  own : Array Slot := #[]
  tables : Array Table
  record : Value := .given ""
  fields : Array Value := #[]
  isSplit : Bool := true
  isStale : Bool := false
  source : Option Source := none
  argument : Nat := 1
  hasFile : Bool := false
  inflows : List Inflow := []
  outflows : List Outflow := []
  regexes : Std.HashMap String Regex.Compiled := {}
  ranges : Array Bool := #[]
  seed : Value := .number 0
  random : Nat := 0

inductive Leave where
  | nextRecord
  | nextFile
  | over
  | exit
  | abort

abbrev Run := ExceptT Leave (StateT Stage Tool)

/-- Says something under the name of the tool, while what was printed waits. -/
def say (message : String) : Run Unit := do
  let name := (← getThe Tool.State).name
  writeError (name ++ ": " ++ message ++ "\n")

def abort (message : String) : Run α := do
  say message
  setStatus 2
  throw .abort

def slot (v : Name) : Run Slot := do
  let s ← get
  return match v with
    | .shared n => s.shared.getD n .nothing
    | .own n => s.own.getD n .nothing

def setSlot (v : Name) (x : Slot) : Run Unit :=
  modify fun s =>
    match v with
    | .shared n => { s with shared := s.shared.setIfInBounds n x }
    | .own n => { s with own := s.own.setIfInBounds n x }

def Slot.toValue : Slot → Value
  | .value v => v
  | _ => .unset

def special (n : Nat) : Run Value := return (← slot (.shared n)).toValue

def setSpecial (n : Nat) (v : Value) : Run Unit := setSlot (.shared n) (.value v)

def textOf (v : Value) : Run String := do
  match v with
  | .number x =>
    match ← special Special.conversion with
    | .text layout | .given layout => return numberText layout x
    | _ => return numberText "%.6g" x
  | v => return v.toText ""

def specialText (n : Nat) : Run String := do textOf (← special n)

def crash (message : String) : Run α := do
  let number (n : Nat) : Run String := return numberText "%.6g" (← special n).toNumber
  abort ("run time error: " ++ message ++ "\n\tFILENAME=\"" ++
    (← specialText Special.fileName) ++ "\" FNR=" ++ (← number Special.fileRecordNumber) ++
    " NR=" ++ (← number Special.recordNumber))

def tableOf (v : Name) : Run Nat := do
  match ← slot v with
  | .table n => return n
  | .maybe n =>
    setSlot v (.table n)
    return n
  | _ =>
    let n := (← get).tables.size
    modify fun s => { s with tables := s.tables.push Table.empty }
    setSlot v (.table n)
    return n

def withTable (n : Nat) (f : Table → α × Table) : Run α :=
  modifyGet fun s =>
    let t := s.tables.getD n Table.empty
    let tables := s.tables.setIfInBounds n Table.empty
    let (a, t) := f t
    (a, { s with tables := tables.setIfInBounds n t })

def keyOf (vs : List Value) : Run Key := do
  match vs with
  | [.number x] =>
    match integer? x with
    | some n =>
      if -(twoTo 63 : Nat) < n && n < (twoTo 63 : Nat) then return .integer n
      else return .text (← textOf (.number x))
    | none => return .text (← textOf (.number x))
  | [v] => return .text (← textOf v)
  | vs =>
    let separator ← specialText Special.keySeparator
    return .text (separator.intercalate (← vs.mapM textOf))

def regexOf (s : String) : Run Regex.Compiled := do
  match (← get).regexes[s]? with
  | some r => return r
  | none =>
    match regex? s with
    | .ok r =>
      modify fun t => { t with regexes := t.regexes.insert s r }
      return r
    | .error message => crash message

def matches' (r : Regex.Compiled) (s : String) : Bool := Regex.occurs r s

inductive Divider where
  | blanks
  | nothing
  | char (c : Char)
  | regex (r : Regex.Compiled)

def dividerOf (s : String) : Run Divider := do
  match s.toList with
  | [] => return .nothing
  | [' '] => return .blanks
  | [c] => return .char c
  | _ => return .regex (← regexOf s)

def piecesBetween (r : Regex.Compiled) (text : Array Char) :
    Nat → Nat → Nat → List String → List String
  | 0, start, _, done => (String.ofList (text.toList.drop start) :: done).reverse
  | fuel + 1, start, place, done =>
    match Regex.search? r {} text place with
    | none => (String.ofList (text.toList.drop start) :: done).reverse
    | some f =>
      if f.start = f.stop then piecesBetween r text fuel start (f.stop + 1) done
      else
        let piece := String.ofList (text.extract start f.start).toList
        piecesBetween r text fuel f.stop f.stop (piece :: done)

def Divider.pieces (d : Divider) (s : String) : List String :=
  if s == "" then []
  else
    match d with
    | .blanks =>
      let words := s.toList.splitBy fun a b => isGap a == isGap b
      (words.filter fun w => w.head?.any (!isGap ·)).map String.ofList
    | .nothing => s.toList.map String.singleton
    | .char c => s.splitOn (String.singleton c)
    | .regex r =>
      let text := s.toList.toArray
      piecesBetween r text (text.size + 1) 0 0 []

def splitRecord : Run Unit := do
  let s ← get
  unless s.isSplit do
    let d ← dividerOf (← specialText Special.fieldSeparator)
    let pieces := d.pieces (s.record.toText "")
    modify ({ · with fields := (pieces.map Value.given).toArray, isSplit := true })

def setRecord (s : String) : Run Unit :=
  modify ({ · with record := .given s, isSplit := false, isStale := false })

def record : Run Value := do
  let s ← get
  if s.isStale then
    let separator ← specialText Special.outputFieldSeparator
    let v := Value.text (separator.intercalate (← s.fields.toList.mapM textOf))
    modify ({ · with record := v, isStale := false })
    return v
  else return s.record

def fieldCount : Run Nat := do
  splitRecord
  return (← get).fields.size

def setFieldCount (n : Nat) : Run Unit := do
  splitRecord
  modify fun s =>
    let fields := if n < s.fields.size then s.fields.take n
      else s.fields ++ Array.replicate (n - s.fields.size) (.text "")
    { s with fields, isStale := true }

def fieldIndex (v : Value) : Run Nat := do
  let n := truncated v.toNumber
  if n < 0 then crash ("negative field index $" ++ toString n)
  return n.toNat

def field (n : Nat) : Run Value := do
  if n = 0 then record
  else
    splitRecord
    return (← get).fields.getD (n - 1) (.text "")

def setField (n : Nat) (v : Value) : Run Unit := do
  if n = 0 then setRecord (← textOf v)
  else
    splitRecord
    if n > (← get).fields.size then setFieldCount n
    modify fun s => { s with fields := s.fields.setIfInBounds (n - 1) v, isStale := true }

def value (v : Name) : Run Value := do
  if v = .shared Special.fieldCount then return .ofNat (← fieldCount)
  else return (← slot v).toValue

def setValue (v : Name) (x : Value) : Run Unit := do
  if v = .shared Special.fieldCount then setFieldCount (truncated x.toNumber).toNat
  else
    -- the fields are those of the separator that was there with the record
    if v = .shared Special.fieldSeparator then splitRecord
    setSlot v (.value x)

inductive Terminator where
  | char (c : Char)
  | paragraph
  | regex (r : Regex.Compiled)

def terminator : Run Terminator := do
  let s ← specialText Special.recordSeparator
  match s.toList with
  | [] => return .paragraph
  | [c] => return .char c
  | _ => return .regex (← regexOf s)

namespace Source

/-- Reads on; how much at once does not matter. -/
def more (s : Source) : Run Source := do
  match ← sys (.read s.fd Act.block) with
  | .error e => abort ("read error (" ++ e.message ++ ")")
  | .ok data =>
    if data.isEmpty then return { s with isOver := true }
    else return { s with rest := s.rest ++ (Text.Octets.ofBytes data).toList }

def all : Nat → Source → Run Source
  | 0, s => return s
  | n + 1, s => do if s.isOver then return s else all n (← s.more)

def upTo (c : Char) : Nat → Source → Run (Option String × Source)
  | 0, s => return (none, s)
  | n + 1, s => do
    let cs := s.rest.takeWhile (· != c)
    match s.rest.drop cs.length with
    | _ :: rest => return (some (String.ofList cs), { s with rest })
    | [] =>
      if s.isOver then
        if cs.isEmpty then return (none, s)
        else return (some (String.ofList cs), { s with rest := [] })
      else upTo c n (← s.more)

/-- Characters up to an empty line, and what follows all empty lines. -/
def paragraph : List Char → List Char → List Char × List Char
  | '\n' :: '\n' :: rest, done => (done.reverse, rest.dropWhile (· == '\n'))
  | ['\n'], done => (done.reverse, [])
  | c :: rest, done => paragraph rest (c :: done)
  | [], done => (done.reverse, [])

def match? (r : Regex.Compiled) (text : Array Char) : Nat → Nat → Option Regex.Found
  | 0, _ => none
  | n + 1, start =>
    match Regex.search? r {} text start with
    | some f => if f.start = f.stop then match? r text n (f.stop + 1) else some f
    | none => none

def next (s : Source) : Run (Option String × Source) := do
  match ← terminator with
  | .char c => upTo c Act.limit s
  | .paragraph =>
    let s ← all Act.limit s
    match s.rest.dropWhile (· == '\n') with
    | [] => return (none, { s with rest := [] })
    | cs =>
      let (found, rest) := paragraph cs []
      return (some (String.ofList found), { s with rest })
  | .regex r =>
    let s ← all Act.limit s
    if s.rest.isEmpty then return (none, s)
    else
      let text := s.rest.toArray
      match match? r text (text.size + 1) 0 with
      | some f =>
        return (some (String.ofList (s.rest.take f.start)), { s with rest := s.rest.drop f.stop })
      | none => return (some (String.ofList s.rest), { s with rest := [] })

def close (s : Source) : Run Unit := do
  if s.fd ≠ 0 then
    let _ ← sys (.close s.fd)

end Source

def assignmentIn? (s : String) : Option (String × String) :=
  let cs := s.toList
  let name := cs.takeWhile fun c => c.isAlphanum || c == '_'
  match cs.drop name.length with
  | '=' :: rest =>
    if name.head?.any fun c => c.isAlpha || c == '_' then
      some (String.ofList name, String.ofList rest)
    else none
  | _ => none

def setFromOutside (name text : String) : Run Unit := do
  match (← get).names.idxOf? name with
  | some i => setValue (.shared i) (.given (withoutEscapes text))
  | none => pure ()

def openFile (path : String) : Run (Except Errno Source) := do
  if path == "-" || path == "/dev/stdin" then return .ok { fd := 0 }
  else
    match ← sys (.open path .input) with
    | .ok fd => return .ok { fd }
    | .error e => return .error e

def nextFile : Nat → Run Bool
  | 0 => return false
  | n + 1 => do
    let s ← get
    let start (path : String) (source : Source) : Run Bool := do
      modify ({ · with source := some source, hasFile := true })
      setSpecial Special.fileName (.text path)
      setSpecial Special.fileRecordNumber (.number 0)
      return true
    if (s.argument : Int) ≥ truncated (← special Special.argumentCount).toNumber then
      if s.hasFile then return false else start "-" { fd := 0 }
    else
      modify ({ · with argument := s.argument + 1 })
      let t ← tableOf (.shared Special.arguments)
      match ← textOf ((← withTable t (·.find (.integer s.argument) false)).getD .unset) with
      | "" => nextFile n
      | word =>
        match assignmentIn? word with
        | some (name, text) =>
          setFromOutside name text
          nextFile n
        | none =>
          match ← openFile word with
          | .ok source => start word source
          | .error e => abort ("cannot open \"" ++ word ++ "\" (" ++ e.message ++ ")")

def leaveFile : Run Unit := do
  match (← get).source with
  | some source =>
    source.close
    modify ({ · with source := none })
  | none => pure ()

def nextRecord : Nat → Run (Option String)
  | 0 => return none
  | n + 1 => do
    match (← get).source with
    | none => if ← nextFile Act.limit then nextRecord n else return none
    | some source =>
      let (found, source) ← source.next
      match found with
      | some s =>
        modify ({ · with source := some source })
        [Special.recordNumber, Special.fileRecordNumber].forM fun k => do
          setSpecial k (.number ((← special k).toNumber + 1))
        return some s
      | none =>
        leaveFile
        nextRecord n

def Outflow.write (o : Outflow) : Run Outflow := do
  if o.pieces.isEmpty then return o
  else
    let _ ← act (Act.writeTo o.fd (String.join o.pieces.reverse))
    return { o with pieces := [], size := 0 }

def flushAll : Run Unit := do
  flush
  let outflows ← (← get).outflows.mapM Outflow.write
  modify ({ · with outflows })

/-- Starts a command of the shell; `arrange` settles where it reads and writes. -/
def startCommand (shell command : String) (arrange : Act Unit) : Run Nat := do
  flushAll
  let environment := (← getThe Tool.State).environment
  let child : Act Errno := do
    arrange
    Running.become "/bin/sh" [shell, "-c", command] environment
  act (Act.fork (child fun e => .exit (Running.statusOf e)))

/-- Starts a command with one end of a pipe in the place of a descriptor of it; yields the other
end. -/
def startPiped (command : String) (isRead : Bool) : Run (Nat × Nat) := do
  let held := (← look).descriptors.map (·.1)
  let (reading, writing) ← sys .pipe
  let (mine, other, place) := if isRead then (reading, writing, 1) else (writing, reading, 0)
  let pid ← startCommand "/bin/sh" command do
    let _ ← Act.ask (.copyTo other place)
    (reading :: writing :: held.filter (· > 2)).forM fun fd => do
      let _ ← Act.ask (.close fd)
  let _ ← sys (.close other)
  return (mine, pid)

def ending : Exit → Nat
  | .code n => n
  | .signal s => 256 + s

def waitFor (pid : Nat) : Run Nat := return ending (← Running.await pid)

def outflow (kind : Outlet) (name : String) : Run Outflow := do
  let isCommand := kind = .command
  match (← get).outflows.find? fun o => o.name == name && o.pid.isSome == isCommand with
  | some o => return o
  | none =>
    let o ← if isCommand then do
        let (fd, pid) ← startPiped name false
        pure ({ name, fd, pid := some pid } : Outflow)
      else
        match ← sys (.open name (if kind = .append then .appending else .output)) with
        | .ok fd => pure { name, fd, pid := none }
        | .error e => abort ("cannot open \"" ++ name ++ "\" for output (" ++ e.message ++ ")")
    modify fun s => { s with outflows := o :: s.outflows }
    return o

def emit (to' : Option (Outlet × String)) (text : String) : Run Unit := do
  match to' with
  | none => put text
  | some (kind, name) =>
    if kind ≠ .command && (name == "/dev/stdout" || name == "-") then put text
    else if kind ≠ .command && name == "/dev/stderr" then writeError text
    else
      let o ← outflow kind name
      let o := { o with pieces := text :: o.pieces, size := o.size + text.utf8ByteSize }
      let o ← if o.size ≥ bufferSize then o.write else pure o
      modify fun s => { s with
        outflows := s.outflows.map fun p =>
          if p.name == name && p.pid.isSome == o.pid.isSome then o else p }

def inflow (isCommand : Bool) (name : String) : Run (Option Inflow) := do
  match (← get).inflows.find? fun i => i.name == name && i.pid.isSome == isCommand with
  | some i => return some i
  | none =>
    let found : Option Inflow ← if isCommand then do
        let (fd, pid) ← startPiped name true
        pure (some { name, pid := some pid, source := { fd } })
      else
        match ← openFile name with
        | .ok source => pure (some { name, pid := none, source })
        | .error _ => pure none
    match found with
    | some i =>
      modify fun s => { s with inflows := i :: s.inflows }
      return some i
    | none => return none

def recordFrom (isCommand : Bool) (name : String) : Run (Option (Option String)) := do
  match ← inflow isCommand name with
  | none => return none
  | some i =>
    let (found, source) ← i.source.next
    modify fun s => { s with
      inflows := s.inflows.map fun j =>
        if j.name == name && j.pid.isSome == isCommand then { j with source } else j }
    return some found

def closeNamed (name : String) : Run Int := do
  let s ← get
  let outs := s.outflows.filter (·.name == name)
  let ins := s.inflows.filter (·.name == name)
  modify fun s => { s with
    outflows := s.outflows.filter (·.name != name)
    inflows := s.inflows.filter (·.name != name) }
  let mut result : Int := -1
  for o in outs do
    let o ← o.write
    let _ ← sys (.close o.fd)
    match o.pid with
    | some pid => result := ← waitFor pid
    | none => result := 0
  for i in ins do
    i.source.close
    match i.pid with
    | some pid => result := ← waitFor pid
    | none => result := 0
  return result

def closeAll : Run Unit := do
  (← get).outflows.forM fun o => do
    let o ← o.write
    let _ ← sys (.close o.fd)
    match o.pid with
    | some pid =>
      let _ ← waitFor pid
    | none => pure ()
  modify ({ · with outflows := [] })
  flush

end Remedy.Tool.Records
