import Remedy.Calendar.Layout
import Remedy.Tool.Records.Stage

namespace Remedy.Tool.Records

open Unix Files

inductive Piece where
  | text (s : String)
  | found

/-- The pieces of a replacement: an ampersand stands for what was matched, unless a backslash is in
front of it. -/
def pieces : List Char → List Char → List Piece
  | '\\' :: '\\' :: '&' :: rest, done =>
    .text (String.ofList ('\\' :: done).reverse) :: .found :: pieces rest []
  | '\\' :: '\\' :: '\\' :: '&' :: rest, done => pieces rest ('&' :: '\\' :: done)
  | '\\' :: '&' :: rest, done => pieces rest ('&' :: done)
  | '&' :: rest, done => .text (String.ofList done.reverse) :: .found :: pieces rest []
  | c :: rest, done => pieces rest (c :: done)
  | [], done => [.text (String.ofList done.reverse)]

def replaceFrom (r : Regex.Compiled) (ps : List Piece) (isGlobal : Bool) (text : Array Char) :
    Nat → Nat → Option Nat → List String → Nat → List String × Nat
  | 0, _, _, done, n => (done, n)
  | fuel + 1, start, last, done, n =>
    let piece (a b : Nat) : String := String.ofList (text.extract a b).toList
    let finish (from' : Nat) (done : List String) (n : Nat) : List String × Nat :=
      (piece from' text.size :: done, n)
    if start > text.size then (done, n)
    else
      match Regex.search? r {} text start with
      | none => finish start done n
      | some f =>
        if f.start = f.stop && last == some f.start then
          -- nothing is matched right behind a match
          if f.start ≥ text.size then finish start done n
          else
            replaceFrom r ps isGlobal text fuel (f.start + 1) none
              (piece start (f.start + 1) :: done) n
        else
          let new := String.join (ps.map fun
            | .text s => s
            | .found => piece f.start f.stop)
          let done := new :: piece start f.start :: done
          if isGlobal then replaceFrom r ps isGlobal text fuel f.stop (some f.stop) done (n + 1)
          else finish f.stop done (n + 1)

def replace (r : Regex.Compiled) (replacement : String) (isGlobal : Bool) (s : String) :
    String × Nat :=
  let text := s.toList.toArray
  let (done, n) :=
    replaceFrom r (pieces replacement.toList []) isGlobal text (2 * text.size + 4) 0 none [] 0
  (String.join done.reverse, n)

def Operation.apply (op : Operation) (x y : Float) : Float :=
  match op with
  | .add => x + y
  | .subtract => x - y
  | .multiply => x * y
  | .divide => x / y
  | .remainder => Records.remainder x y
  | .power => Float.pow x y

def Relation.holds (r : Relation) (o : Ordering) : Bool :=
  match r with
  | .less => o == .lt
  | .atMost => o != .gt
  | .equal => o == .eq
  | .unequal => o != .eq
  | .atLeast => o != .lt
  | .greater => o == .gt

/-- The part of a text from a place on, of so many characters if that is told. Places before the
text lengthen the part. -/
def part (s : String) (start : Float) (count : Option Float) : String :=
  let i := truncated start
  let (i, n) : Int × Option Int := match count.map truncated with
    | some n => if i ≤ 0 then (1, some (n - i)) else (i, some n)
    | none => (max i 1, none)
  let rest := s.toList.drop (i - 1).toNat
  String.ofList (match n with
    | some n => rest.take n.toNat
    | none => rest)

/-- The place of a text in another one, from one on; zero if it is not there. -/
def position (s t : String) : Nat :=
  let rec go : List Char → Nat → Nat
    | [], _ => 0
    | c :: cs, n => if t.toList.isPrefixOf (c :: cs) then n else go cs (n + 1)
  if t == "" then 1 else go s.toList 1

def nextRandom (n : Nat) : Nat := (n * 25214903917 + 11) % twoTo 48

def seconds : Run Int := return (← look).files.now / Calendar.second

def moment? (s : String) : Option Int :=
  let numbers := (s.splitOn " ").filterMap String.toInt?
  match numbers with
  | year :: month :: day :: hour :: minute :: second :: _ =>
    some (Calendar.dayNumber year month.toNat day.toNat * 86400 + hour * 3600 + minute * 60 + second)
  | _ => none

/-- Lays out values for printing, or stops because they do not fit. -/
def formatted (vs : List Value) (name : String) : Run (String × Bool) := do
  match vs with
  | [] => return ("", true)
  | f :: vs =>
    let layout ← textOf f
    let conversion ← specialText Special.conversion
    let shown := name ++ "(\"" ++ layout ++ "\")"
    match layOut (·.toText conversion) (layout.length + 1) layout.toList vs 1 "" with
    | .whole s => return (s, true)
    | .lacking s =>
      if name == "printf" then put s
      crash ("not enough arguments passed to " ++ shown)
    | .improper s n =>
      if name == "printf" then put s
      crash ("improper conversion(number " ++ toString n ++ ") in " ++ shown)

def builtinValue (f : Builtin) (vs : List Value) : Run Value := do
  let first := vs.headD .unset
  let number := first.toNumber
  let real (g : Float → Float) : Run Value := return .number (g number)
  match f with
  | .atan2 => return .number (Float.atan2 number (vs.getD 1 .unset).toNumber)
  | .cos => real Float.cos
  | .exp => real Float.exp
  | .log => real Float.log
  | .root => real Float.sqrt
  | .sin => real Float.sin
  | .int => real fun x => if x < 0 then Float.ceil x else Float.floor x
  | .close => return .ofInt (← closeNamed (← textOf first))
  | .flush =>
    flushAll
    return .number 0
  | .index => return .ofNat (position (← textOf first) (← textOf (vs.getD 1 .unset)))
  | .length =>
    let v ← if vs.isEmpty then record else pure first
    return .ofNat (← textOf v).length
  | .lower => return .text ((← textOf first).map Char.toLower)
  | .upper => return .text ((← textOf first).map Char.toUpper)
  | .rand =>
    let n := nextRandom (← get).random
    modify ({ · with random := n })
    return .number ((n / twoTo 16).toFloat / (twoTo 32).toFloat)
  | .seed =>
    let old := (← get).seed
    let new ← if vs.isEmpty then pure (Value.ofInt (← seconds)) else pure first
    modify ({ · with seed := new, random := new.toNumber.toBits.toNat })
    return old
  | .format => return .text (← formatted vs "sprintf").1
  | .substring =>
    return .text (part (← textOf first) (vs.getD 1 .unset).toNumber (vs[2]?.map Value.toNumber))
  | .system =>
    let pid ← startCommand "sh" (← textOf first) (pure ())
    return .ofNat (← waitFor pid)
  | .time => return .ofInt (← seconds)
  | .makeTime =>
    return match moment? (← textOf first) with
      | some n => .ofInt n
      | none => .number (-1)
  | .formatTime =>
    let layout ← if vs.isEmpty then pure "%c" else textOf first
    let n ← match vs[1]? with
      | some v => pure (truncated v.toNumber)
      | none => seconds
    return .text (Calendar.layout (Calendar.Moment.ofNanoseconds (n * Calendar.second)) layout)
  | .global | .locate | .once | .split => return .unset

inductive Flow where
  | onward
  | leaveLoop
  | continueLoop
  | done (v : Value)

mutual

def eval : Nat → Expr → Run Value
  | 0, _ => return .unset
  | n + 1, e => do
    let pattern (e : Expr) : Run Regex.Compiled := do
      match e with
      | .regex r => return r
      | e => regexOf (← textOf (← eval n e))
    match e with
    | .number x => return .number x
    | .text s => return .text s
    | .regex r => return .ofBool (matches' r (← textOf (← record)))
    | .variable v => value v
    | .element v keys =>
      let k ← keyOf (← keys.mapM (eval n))
      let t ← tableOf v
      return (← withTable t (·.find k true)).getD .unset
    | .field e =>
      match e with
      | .number x => field (truncated x).toNat
      | e => field (← fieldIndex (← eval n e))
    | .group e => eval n e
    | .assign target op e => assigned n target fun old => do
        let v ← eval n e
        match op with
        | none => return (v, v)
        | some op =>
          let v := Value.number (op.apply (← old).toNumber v.toNumber)
          return (v, v)
    | .step target by' isBefore => assigned n target fun old => do
        let x := (← old).toNumber
        let y := x + by'
        return (.number y, .number (if isBefore then y else x))
    | .choose c a b => if (← eval n c).holds then eval n a else eval n b
    | .both a b =>
      if (← eval n a).holds then return .ofBool (← eval n b).holds else return .ofBool false
    | .either a b =>
      if (← eval n a).holds then return .ofBool true else return .ofBool (← eval n b).holds
    | .not e => return .ofBool !(← eval n e).holds
    | .negate e => return .number (-(← eval n e).toNumber)
    | .plus e => return .number (← eval n e).toNumber
    | .compute op a b =>
      let x ← eval n a
      let y ← eval n b
      return .number (op.apply x.toNumber y.toNumber)
    | .compare r a b =>
      let x ← eval n a
      let y ← eval n b
      let conversion ← specialText Special.conversion
      return .ofBool (r.holds (x.order conversion y))
    | .fits a b isNegated =>
      let s ← textOf (← eval n a)
      let r ← pattern b
      return .ofBool (matches' r s != isNegated)
    | .isKey keys v =>
      let k ← keyOf (← keys.mapM (eval n))
      let t ← tableOf v
      return .ofBool (← withTable t (·.has k))
    | .join a b =>
      let x ← eval n a
      let y ← eval n b
      return .text ((← textOf x) ++ (← textOf y))
    | .call f arguments => call n f arguments
    | .builtin .length [.variable v] =>
      match ← slot v with
      | .table t | .maybe t => return .ofNat ((← get).tables.getD t Table.empty).size
      | _ => builtinValue .length [← value v]
    | .builtin .split (s :: .variable v :: rest) =>
      let s ← textOf (← eval n s)
      let d ← match rest with
        | [] => dividerOf (← specialText Special.fieldSeparator)
        | [.regex r] => pure (Divider.regex r)
        | e :: _ => dividerOf (← textOf (← eval n e))
      let ps := d.pieces s
      let t ← tableOf v
      withTable t fun _ => ((), Table.ofValues (ps.map .given))
      return .ofNat ps.length
    | .builtin .locate (s :: r :: _) =>
      let s ← textOf (← eval n s)
      let r ← pattern r
      let (start, length) : Int × Int := match Regex.search? r {} s.toList.toArray 0 with
        | some f => (f.start + 1, (f.stop - f.start : Nat))
        | none => (0, -1)
      setSpecial Special.matchStart (.ofInt start)
      setSpecial Special.matchLength (.ofInt length)
      return .ofInt start
    | .builtin .once (r :: s :: rest) => replaced n r s (rest.headD (.field (.number 0))) false
    | .builtin .global (r :: s :: rest) => replaced n r s (rest.headD (.field (.number 0))) true
    | .builtin f arguments => do builtinValue f (← arguments.mapM (eval n))
    | .next target =>
      match ← nextRecord Act.limit with
      | none => return .number 0
      | some s =>
        took n target s
        return .number 1
    | .nextOfFile path target => elsewhere n false path target
    | .nextOfCommand command target => elsewhere n true command target

/-- Gives something the first of two values that its old value makes; the second one is yielded. -/
def assigned : Nat → Expr → (Run Value → Run (Value × Value)) → Run Value
  | 0, _, _ => return .unset
  | n + 1, target, f => do
    match target with
    | .variable v =>
      let (new, result) ← f (value v)
      setValue v new
      return result
    | .element v keys =>
      let k ← keyOf (← keys.mapM (eval n))
      let t ← tableOf v
      let (new, result) ← f (return (← withTable t (·.find k true)).getD .unset)
      withTable t fun t => ((), t.insert k new)
      return result
    | .field e =>
      let i ← fieldIndex (← eval n e)
      let (new, result) ← f (field i)
      setField i new
      return result
    | _ => return .unset

def elsewhere : Nat → Bool → Expr → Option Expr → Run Value
  | 0, _, _, _ => return .unset
  | n + 1, isCommand, source, target => do
    match ← recordFrom isCommand (← textOf (← eval n source)) with
    | none => return .number (-1)
    | some none => return .number 0
    | some (some s) =>
      took n target s
      return .number 1

def took : Nat → Option Expr → String → Run Unit
  | 0, _, _ => return
  | n + 1, target, s => do
    match target with
    | some t =>
      let _ ← assigned n t fun _ => return (.given s, .unset)
    | none => setRecord s

def replaced : Nat → Expr → Expr → Expr → Bool → Run Value
  | 0, _, _, _, _ => return .unset
  | n + 1, r, s, target, isGlobal => do
    let r ← match r with
      | .regex r => pure r
      | e => do regexOf (← textOf (← eval n e))
    let replacement ← textOf (← eval n s)
    if target.isTarget then
      let old ← textOf (← eval n target)
      let (new, count) := replace r replacement isGlobal old
      if count > 0 then
        let _ ← assigned n target fun _ => return (.text new, .unset)
      return .ofNat count
    else
      let old ← textOf (← eval n target)
      return .ofNat (replace r replacement isGlobal old).2

/-- Calls a function. A variable that holds nothing yet may become a table in it. -/
def call : Nat → Nat → List Expr → Run Value
  | 0, _, _ => return .unset
  | n + 1, f, arguments => do
    let slots ← arguments.mapM fun e => do
      match e with
      | .variable v =>
        match ← slot v with
        | .nothing =>
          let t := (← get).tables.size
          modify fun s => { s with tables := s.tables.push Table.empty }
          setSlot v (.maybe t)
          return .maybe t
        | .value _ => return .value (← value v)
        | x => return x
      | e => return .value (← eval n e)
    let s ← get
    let function := s.functions.getD f default
    let own := slots.toArray ++ Array.replicate (function.arity - slots.length) Slot.nothing
    modify ({ · with own })
    let count := s.tables.size
    let flow ← exec n function.body
    modify fun t => { t with own := s.own, tables := t.tables.take count }
    return match flow with
      | .done v => v
      | _ => .unset

def exec : Nat → Statement → Run Flow
  | 0, _ => return .onward
  | n + 1, s => do
    let destination (to' : Option (Outlet × Expr)) : Run (Option (Outlet × String)) := do
      match to' with
      | some (kind, e) => return some (kind, ← textOf (← eval n e))
      | none => return none
    match s with
    | .evaluate e =>
      let _ ← eval n e
      return .onward
    | .print es to' =>
      let vs ← if es.isEmpty then pure [← record] else es.mapM (eval n)
      let layout ← specialText Special.outputFormat
      let text := (← specialText Special.outputFieldSeparator).intercalate
        (vs.map (·.toText layout))
      let ending ← specialText Special.outputRecordSeparator
      emit (← destination to') (text ++ ending)
      return .onward
    | .format es to' =>
      let vs ← es.mapM (eval n)
      let to' ← destination to'
      let (text, _) ← formatted vs "printf"
      emit to' text
      return .onward
    | .block ss => execAll n ss
    | .choose c a b =>
      if (← eval n c).holds then exec n a
      else
        match b with
        | some b => exec n b
        | none => return .onward
    | .whileLoop c body =>
      if (← eval n c).holds then loop n body (.whileLoop c body) else return .onward
    | .untilLoop body c =>
      match ← exec n body with
      | .leaveLoop => return .onward
      | .done v => return .done v
      | _ =>
        sys .pause
        if (← eval n c).holds then exec n (.untilLoop body c) else return .onward
    | .forLoop c behind body =>
      let goes ← match c with
        | some c => do pure (← eval n c).holds
        | none => pure true
      if goes then
        match ← exec n body with
        | .leaveLoop => return .onward
        | .done v => return .done v
        | _ =>
          match behind with
          | some e =>
            let _ ← eval n e
          | none => pure ()
          sys .pause
          exec n (.forLoop c behind body)
      else return .onward
    | .forKeys target v body =>
      let t ← tableOf v
      execKeys n target body (← withTable t Table.keys)
    | .leaveLoop => return .leaveLoop
    | .continueLoop => return .continueLoop
    | .nextRecord => throw .nextRecord
    | .nextFile => throw .nextFile
    | .exit status =>
      match status with
      | some e =>
        let n := truncated (← eval n e).toNumber
        setStatus (n % 256).toNat
      | none => pure ()
      throw .exit
    | .return e =>
      match e with
      | some e => return .done (← eval n e)
      | none => return .done .unset
    | .delete v keys =>
      let k ← keyOf (← keys.mapM (eval n))
      let t ← tableOf v
      withTable t fun t => ((), t.erase k)
      return .onward
    | .clear v =>
      let t ← tableOf v
      withTable t fun _ => ((), Table.empty)
      return .onward

def execAll : Nat → List Statement → Run Flow
  | 0, _ => return .onward
  | _, [] => return .onward
  | n + 1, s :: rest => do
    match ← exec n s with
    | .onward => execAll n rest
    | flow => return flow

def loop : Nat → Statement → Statement → Run Flow
  | 0, _, _ => return .onward
  | n + 1, body, again => do
    match ← exec n body with
    | .leaveLoop => return .onward
    | .done v => return .done v
    | _ =>
      sys .pause
      exec n again

def execKeys : Nat → Expr → Statement → List String → Run Flow
  | 0, _, _, _ => return .onward
  | _, _, _, [] => return .onward
  | n + 1, target, body, k :: rest => do
    let _ ← assigned n target fun _ => return (.text k, .unset)
    match ← exec n body with
    | .leaveLoop => return .onward
    | .done v => return .done v
    | _ => execKeys n target body rest

end

def runBody (body : Option Statement) : Run Unit := do
  let _ ← exec Act.limit (body.getD (.print [] none))

def holds (e : Expr) : Run Bool := return (← eval Act.limit e).holds

def isFor (p : Pattern) : Run Bool := do
  match p with
  | .begin | .finish => return false
  | .always => return true
  | .test e => holds e
  | .range n a b =>
    let inside ← if (← get).ranges.getD n false then pure true else holds a
    if inside then
      let isOver ← holds b
      modify fun s => { s with ranges := s.ranges.setIfInBounds n !isOver }
    return inside

/-- Runs a part; yields why it was left, if it was. -/
def leaving (x : Run Unit) : Run (Option Leave) := fun s => do
  let (r, s) ← x s
  return (.ok (match r with
    | .ok () => none
    | .error l => some l), s)

/-- Goes through the records; yields why that ended, if there was a reason. -/
def eachRecord (rules : List Rule) : Nat → Run (Option Leave)
  | 0 => return none
  | n + 1 => do
    let step : Run Unit := do
      match ← nextRecord Act.limit with
      | none => throw .over
      | some s =>
        setRecord s
        rules.forM fun r => do
          if ← isFor r.pattern then runBody r.body
    match ← leaving step with
    | none | some .nextRecord => eachRecord rules n
    | some .nextFile =>
      leaveFile
      eachRecord rules n
    | some .over => return none
    | reason => return reason

def runScript (rules : List Rule) : Run Unit := do
  let isBegin (r : Rule) : Bool := match r.pattern with
    | .begin => true
    | _ => false
  let isFinish (r : Rule) : Bool := match r.pattern with
    | .finish => true
    | _ => false
  let all (rs : List Rule) : Run (Option Leave) := leaving (rs.forM fun r => runBody r.body)
  let (begins, rest) := rules.partition isBegin
  let (ends, middle) := rest.partition isFinish
  let reason ← all begins
  let reason ← match reason with
    | none => if rest.isEmpty then pure none else eachRecord middle Act.limit
    | reason => pure reason
  let _ ← match reason with
    | some .abort => pure none
    | _ => all ends
  closeAll

def usage : String := "Usage: mawk [Options] [Program] [file ...]

Program:
    The -f option value is the name of a file containing program text.
    If no -f option is given, a \"--\" ends option processing; the following
    parameters are the program text.

Options:
    -f program-file  Program  text is read from file instead of from the
                     command-line.  Multiple -f options are accepted.
    -F value         sets the field separator, FS, to value.
    -v var=value     assigns value to program variable var.
    --               unambiguous end of options.

    Implementation-specific options are prefixed with \"-W\".  They can be
    abbreviated:

    -W version       show version information and exit.
    -W compat        pre-POSIX 2001.
    -W dump          show assembler-like listing of program and exit.
    -W help          show this message and exit.
    -W interactive   set unbuffered output, line-buffered input.
    -W exec file     use file as program as well as last option.
    -W posix         stricter POSIX checking.
    -W random=number set initial random seed.
    -W sprintf=number adjust size of sprintf buffer.
    -W usage         show this message and exit.
"

structure Options where
  programs : List String := []
  separator : Option String := none
  assignments : List (String × String) := []
  operands : List String := []

/-- Complains without a status of its own and ends. -/
def refuseUse (message : String) : Tool α := do
  writeError ((← get).name ++ ": " ++ message ++ "\n")
  setStatus 2
  stop

def readArguments : Options → List String → Tool Options
  | o, [] => return { o with operands := [] }
  | o, "--" :: rest => return { o with operands := rest }
  | o, w :: rest =>
    let take (c : Char) (value : String) : Tool Options := do
      match c with
      | 'f' => return { o with programs := o.programs ++ [value] }
      | 'F' => return { o with separator := some value }
      | 'v' =>
        match assignmentIn? value with
        | some x => return { o with assignments := o.assignments ++ [x] }
        | none => refuseUse ("improper assignment: -v " ++ value)
      | _ =>
        if "usage".startsWith value || "help".startsWith value then
          put usage
          stop
        else return o
    match w.toList with
    | '-' :: c :: cs =>
      if "fFvW".toList.contains c then
        match cs, rest with
        | [], [] => refuseUse ("option -" ++ String.singleton c ++ " lacks argument")
        | [], value :: rest => do readArguments (← take c value) rest
        | cs, rest => do readArguments (← take c (String.ofList cs)) rest
      else if w == "--help" || w == "--usage" then do
        put usage
        stop
      else refuseUse ("not an option: " ++ w)
    | _ => return { o with operands := w :: rest }

def Fault.shown (f : Fault) (file : String) : String :=
  file ++ (if f.isBare then toString f.line else "line " ++ toString f.line) ++ ": " ++ f.message

def awk (words : List String) : Tool Unit := do
  let name := (← get).name
  let o ← readArguments {} words
  let (text, operands) : String × List String ← match o.programs, o.operands with
    | [], [] =>
      writeError usage
      stop
    | [], program :: rest => pure (program, rest)
    | paths, rest =>
      let texts ← paths.mapM fun path => do
        match ← readAll path with
        | .ok s => return s
        | .error e => refuseUse ("cannot open \"" ++ path ++ "\" (" ++ e.message ++ ")")
      pure ("\n".intercalate texts, rest)
  match readScript text with
  | .error faults =>
    let file := match o.programs with
      | [path] => path ++ ": "
      | _ => ""
    faults.forM fun f => writeError (name ++ ": " ++ f.shown file ++ "\n")
    setStatus 2
  | .ok script =>
    let arguments := (name :: operands).map Value.given
    let table (pairs : List (Key × Value)) : Table :=
      pairs.foldl (fun t (k, v) => t.insert k v) Table.empty
    let environment := (← get).environment
    let count := script.names.size
    let now := (← look).files.now
    let start (n : Nat) : Slot :=
      let text (s : String) : Slot := .value (.text s)
      if n = Special.environment || n = Special.arguments then .table n
      else if n = Special.argumentCount then .value (.ofNat arguments.length)
      else if n = Special.fieldSeparator then text " "
      else if n = Special.outputFieldSeparator then text " "
      else if n = Special.recordSeparator || n = Special.outputRecordSeparator then text "\n"
      else if n = Special.keySeparator then text "\x1c"
      else if n = Special.conversion || n = Special.outputFormat then text "%.6g"
      else if n = Special.fileName then .nothing
      else if n = Special.matchLength then .value (.number (-1))
      else if n < specialNames.size then .value (.number 0)
      else .maybe n
    let tableAt (n : Nat) : Table :=
      if n = Special.environment then
        table (environment.map fun (k, v) => (Key.text k, Value.given v))
      else if n = Special.arguments then
        table (arguments.zipIdx.map fun (v, i) => (Key.integer i, v))
      else Table.empty
    let stage : Stage := {
      functions := script.functions
      names := script.names
      shared := Array.ofFn fun (i : Fin count) => start i.val
      tables := Array.ofFn fun (i : Fin count) => tableAt i.val
      ranges := Array.replicate (script.rules.length) false
      seed := .ofInt (now / Calendar.second)
      random := now.toNat }
    let whole : Run Unit := do
      match o.separator with
      | some s => setFromOutside "FS" s
      | none => pure ()
      o.assignments.forM fun (k, v) => setFromOutside k v
      runScript script.rules
    let _ ← whole.run.run stage

def catalogue : List (String × (List String → Tool Unit)) := [("awk", awk), ("mawk", awk)]

end Remedy.Tool.Records
