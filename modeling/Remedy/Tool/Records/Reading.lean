import Remedy.Tool.Records.Token

namespace Remedy.Tool.Records

inductive Kind where
  | unknown
  | single
  | table
deriving DecidableEq, Inhabited

structure Fault where
  place : Nat
  line : Nat
  message : String
  isBare : Bool := false
  isLast : Bool := false

structure Reader where
  tokens : Array (Token × Nat)
  place : Nat := 0
  names : Array String := specialNames
  kinds : Array Kind :=
    specialNames.map fun s => if s == "ENVIRON" || s == "ARGV" then .table else .single
  functions : Array (String × Option Function) := #[]
  calls : List (Nat × Nat × Nat × Nat) := []
  parameters : List String := []
  inFunction : Bool := false
  hasRecord : Bool := false
  loops : Nat := 0
  ranges : Nat := 0
  faults : List Fault := []
  quiet : Nat := 0

abbrev Reading := ExceptT Fault (StateM Reader)

namespace Reading

def peekAt (n : Nat) : Reading Token := do
  let r ← get
  return (r.tokens.getD (r.place + n) (.finish, 0)).1

def peek : Reading Token := peekAt 0

def skip (n : Nat := 1) : Reading Unit := modify fun r => { r with place := r.place + n }

def line : Reading Nat := do
  let r ← get
  return (r.tokens.getD r.place (r.tokens.back?.getD (.finish, 0))).2

def isNext (mark : String) : Reading Bool := return (← peek) == .mark mark

def accept (mark : String) : Reading Bool := do
  if ← isNext mark then
    skip
    return true
  else return false

def openAt (tokens : Array (Token × Nat)) (place : Nat) : Nat :=
  ((tokens.toList.take place).foldl (fun (n : Nat) t =>
    if t.1 == .mark "(" then n + 1 else if t.1 == .mark ")" then n - 1 else n) 0)

def unexpected : Reading α := do
  let r ← get
  let t ← peek
  let f : Fault := { place := r.place, line := ← line, message := "" }
  match t with
  | .stray c =>
    throw { f with
      message := "unexpected character '" ++ String.singleton c ++ "'", isBare := true }
  | .endless message => throw { f with message, isLast := true }
  | .finish => throw { f with message := "missing \x7d near end of file", isLast := true }
  | t =>
    let isEnd := t.endsStatement || t == .mark "\x7d"
    throw { f with
      message := (if isEnd && openAt r.tokens r.place > 0 then "missing ) near "
        else "syntax error at or near ") ++ t.shown }

def expect (mark : String) : Reading Unit := do
  unless ← accept mark do unexpected

def note (message : String) : Reading Unit := do
  let f : Fault := { place := (← get).place, line := ← line, message }
  modify fun r => { r with faults := f :: r.faults }

/-- Notes a fault that nothing behind is read of. -/
def stopWith (message : String) : Reading α := do
  throw { place := (← get).place, line := ← line, message, isLast := true }

/-- Runs a part; if it cannot be read, the reader is where it was. -/
def attempt (x : Reading α) : Reading (Option α) := fun r =>
  match x r with
  | (.ok a, r) => (.ok (some a), r)
  | (.error _, _) => (.ok none, r)

/-- Runs a part; if it cannot be read, the reader is where the fault is. -/
def caught (x : Reading α) : Reading (Except Fault α) := fun r =>
  let (a, r) := x r
  (.ok a, r)

def endStatement : Reading Unit := do
  if (← peek).endsStatement then skip else unexpected

def variableNamed (s : String) (kind : Kind) : Reading Name := do
  let r ← get
  match r.parameters.idxOf? s with
  | some i => return .own i
  | none =>
    match r.names.idxOf? s with
    | some i =>
      let known := r.kinds.getD i .unknown
      if kind ≠ .unknown then
        if known == .unknown then
          modify fun r => { r with kinds := r.kinds.setIfInBounds i kind }
        else if known ≠ kind then
          note ("illegal reference to " ++ (if known == .table then "array " else "variable ") ++ s)
      return .shared i
    | none =>
      modify fun r => { r with names := r.names.push s, kinds := r.kinds.push kind }
      return .shared r.names.size

def functionNamed (s : String) : Reading Nat := do
  let r ← get
  match r.functions.findIdx? (·.1 == s) with
  | some i => return i
  | none =>
    modify fun r => { r with functions := r.functions.push (s, none) }
    return r.functions.size

def isFunction (s : String) : Reading Bool := return (← get).functions.any (·.1 == s)

def regexOf (s : String) : Reading Regex.Compiled := do
  match regex? s with
  | .ok r => return r
  | .error message => stopWith message

end Reading

open Reading

/-- What stands between two operands: how tightly it binds, and what it makes of them. -/
def between? (inPrint : Bool) : Token → Option (Nat × (Expr → Expr → Expr))
  | .mark "||" => some (1, .either)
  | .mark "&&" => some (2, .both)
  | .mark "~" => some (4, fun a b => .fits a b false)
  | .mark "!~" => some (4, fun a b => .fits a b true)
  | .mark "<" => some (5, .compare .less)
  | .mark "<=" => some (5, .compare .atMost)
  | .mark "==" => some (5, .compare .equal)
  | .mark "!=" => some (5, .compare .unequal)
  | .mark ">=" => some (5, .compare .atLeast)
  | .mark ">" => if inPrint then none else some (5, .compare .greater)
  | _ => none

def assignment? : Token → Option (Option Operation)
  | .mark "=" => some none
  | .mark "+=" => some (some .add)
  | .mark "-=" => some (some .subtract)
  | .mark "*=" => some (some .multiply)
  | .mark "/=" => some (some .divide)
  | .mark "%=" => some (some .remainder)
  | .mark "^=" => some (some .power)
  | _ => none

def beginsOperand : Token → Bool
  | .number .. | .text _ | .regex _ | .name _ | .called _ => true
  | .word s => Builtin.table.any (·.1 == s)
  | .mark s => ["$", "!", "(", "++", "--"].contains s
  | _ => false

def endsPrinted (t : Token) : Bool :=
  t.endsStatement || [">", ">>", "|"].any fun s => t == .mark s

def asPattern (e : Expr) : Reading Expr := do
  match e with
  | .text s => return .regex (← regexOf s)
  | e => return e

mutual

/-- An expression; inside a printing statement some signs mean where the text goes. -/
def expression : Nat → Bool → Reading Expr
  | 0, _ => unexpected
  | n + 1, inPrint => do
    let c ← operands n inPrint 0
    if ← accept "?" then
      let a ← expression n inPrint
      expect ":"
      return .choose c a (← expression n inPrint)
    else return c

def operands : Nat → Bool → Nat → Reading Expr
  | 0, _, _ => unexpected
  | n + 1, inPrint, least => do operandsFrom n inPrint least (← joined n inPrint)

/-- Goes on behind an operand, as far as signs bind tightly enough. -/
def operandsFrom : Nat → Bool → Nat → Expr → Reading Expr
  | 0, _, _, _ => unexpected
  | n + 1, inPrint, least, a => do
    let t ← peek
    if t == .word "in" && least ≤ 3 then
      match ← peekAt 1 with
      | .name s =>
        let v ← variableNamed s .table
        skip 2
        operandsFrom n inPrint least (.isKey [a] v)
      | _ =>
        skip
        unexpected
    else
      match between? inPrint t with
      | some (level, make) =>
        if level < least then return a
        else
          skip
          let b ← operands n inPrint (level + 1)
          let b ← if level = 4 then asPattern b else pure b
          operandsFrom n inPrint least (make a b)
      | none => return a

def joined : Nat → Bool → Reading Expr
  | 0, _ => unexpected
  | n + 1, inPrint => do
    let a ← sum n inPrint
    match assignment? (← peek) with
    | some op =>
      if a.isTarget then
        skip
        return .assign a op (← expression n inPrint)
      else unexpected
    | none => joinedFrom n inPrint a

def joinedFrom : Nat → Bool → Expr → Reading Expr
  | 0, _, _ => unexpected
  | n + 1, inPrint, a => do
    if beginsOperand (← peek) then joinedFrom n inPrint (.join a (← sum n inPrint)) else return a

def sum : Nat → Bool → Reading Expr
  | 0, _ => unexpected
  | n + 1, inPrint => do sumFrom n inPrint (← product n inPrint)

def sumFrom : Nat → Bool → Expr → Reading Expr
  | 0, _, _ => unexpected
  | n + 1, inPrint, a => do
    if ← accept "+" then sumFrom n inPrint (.compute .add a (← product n inPrint))
    else if ← accept "-" then sumFrom n inPrint (.compute .subtract a (← product n inPrint))
    else return a

def product : Nat → Bool → Reading Expr
  | 0, _ => unexpected
  | n + 1, inPrint => do productFrom n inPrint (← signed n inPrint)

def productFrom : Nat → Bool → Expr → Reading Expr
  | 0, _, _ => unexpected
  | n + 1, inPrint, a => do
    if ← accept "*" then productFrom n inPrint (.compute .multiply a (← signed n inPrint))
    else if ← accept "/" then productFrom n inPrint (.compute .divide a (← signed n inPrint))
    else if ← accept "%" then productFrom n inPrint (.compute .remainder a (← signed n inPrint))
    else return a

def signed : Nat → Bool → Reading Expr
  | 0, _ => unexpected
  | n + 1, inPrint => do
    if ← accept "!" then return .not (← signed n inPrint)
    else if ← accept "-" then return .negate (← signed n inPrint)
    else if ← accept "+" then return .plus (← signed n inPrint)
    else piped n inPrint (← raised n inPrint)

def piped : Nat → Bool → Expr → Reading Expr
  | 0, _, _ => unexpected
  | n + 1, inPrint, a => do
    if !inPrint && (← isNext "|") && (← peekAt 1) == .word "getline" then
      skip 2
      piped n inPrint (.nextOfCommand a (← target? n))
    else return a

def raised : Nat → Bool → Reading Expr
  | 0, _ => unexpected
  | n + 1, inPrint => do
    let a ← stepped n
    if ← accept "^" then
      match ← peek with
      | .mark "-" | .mark "+" | .mark "!" => return .compute .power a (← signed n inPrint)
      | _ => return .compute .power a (← raised n inPrint)
    else return a

def stepped : Nat → Reading Expr
  | 0 => unexpected
  | n + 1 => do
    let a ← operand n
    if !a.isTarget then return a
    else if ← accept "++" then return .step a 1 false
    else if ← accept "--" then return .step a (-1) false
    else return a

def operand : Nat → Reading Expr
  | 0 => unexpected
  | n + 1 => do
    match ← peek with
    | .number x _ =>
      skip
      return .number x
    | .text s =>
      skip
      return .text s
    | .regex s =>
      let r ← regexOf s
      skip
      return .regex r
    | .mark "(" =>
      skip
      let e ← expression n false
      if ← isNext "," then
        let keys ← more n [e]
        expect ")"
        match ← peek, ← peekAt 1 with
        | .word "in", .name s =>
          let v ← variableNamed s .table
          skip 2
          return .isKey keys v
        | .word "in", _ =>
          skip
          unexpected
        | _, _ => unexpected
      else
        expect ")"
        return .group e
    | .mark "++" =>
      skip
      return .step (← target n) 1 true
    | .mark "--" =>
      skip
      return .step (← target n) (-1) true
    | .mark "$" | .name _ => place n
    | .called s =>
      skip
      called n s
    | .word "getline" =>
      skip
      let t ← target? n
      if ← accept "<" then return .nextOfFile (← raised n true) t
      else return .next t
    | .word s =>
      match Builtin.table.lookup s with
      | some (f, least, most) =>
        skip
        if f == .length && !(← isNext "(") then return .builtin f []
        else
          expect "("
          let arguments ← if f == .split then splitArguments n else argumentsOf n
          let arguments ← match f, arguments with
            | .once, r :: rest | .global, r :: rest => do pure ((← asPattern r) :: rest)
            | .locate, s :: r :: rest => do pure (s :: (← asPattern r) :: rest)
            | _, as => pure as
          let count := arguments.length
          if count < least || count > most then
            note ("wrong number of arguments in call to " ++ s)
          expect ")"
          return .builtin f arguments
      | none => unexpected
    | _ => unexpected

/-- A variable, an element or a field; also the call of a function with blanks behind its name. -/
def place : Nat → Reading Expr
  | 0 => unexpected
  | n + 1 => do
    match ← peek with
    | .mark "$" =>
      skip
      match ← peek with
      | .mark "-" =>
        skip
        return .field (.negate (← operand n))
      | .mark "+" =>
        skip
        return .field (.plus (← operand n))
      | .mark "!" =>
        skip
        return .field (.not (← operand n))
      | _ => return .field (← operand n)
    | .name s =>
      skip
      if ← accept "[" then
        let v ← variableNamed s .table
        let keys ← more n [← expression n false]
        expect "]"
        return .element v keys
      else if (← isNext "(") && (← isFunction s) then called n s
      else return .variable (← variableNamed s .single)
    | _ => unexpected

def target : Nat → Reading Expr
  | 0 => unexpected
  | n + 1 => do
    let e ← place n
    if e.isTarget then return e else unexpected

def target? : Nat → Reading (Option Expr)
  | 0 => unexpected
  | n + 1 => do
    match ← peek with
    | .mark "$" => return some (← target n)
    | .name s => if ← isFunction s then return none else return some (← target n)
    | _ => return none

def called : Nat → String → Reading Expr
  | 0, _ => unexpected
  | n + 1, s => do
    let f ← functionNamed s
    let start ← get
    let where' ← line
    expect "("
    let arguments ← argumentsOf n
    expect ")"
    modify fun r => { r with calls := (f, arguments.length, start.place, where') :: r.calls }
    return .call f arguments

/-- Expressions behind commas, after some that have been read. -/
def more : Nat → List Expr → Reading (List Expr)
  | 0, _ => unexpected
  | n + 1, done => do
    if ← accept "," then more n ((← expression n false) :: done) else return done.reverse

def argumentsOf : Nat → Reading (List Expr)
  | 0 => unexpected
  | n + 1 => do
    if ← isNext ")" then return []
    else moreArguments n [← argument n]

def moreArguments : Nat → List Expr → Reading (List Expr)
  | 0, _ => unexpected
  | n + 1, done => do
    if ← accept "," then moreArguments n ((← argument n) :: done) else return done.reverse

def argument : Nat → Reading Expr
  | 0 => unexpected
  | n + 1 => do
    match ← peek, ← peekAt 1 with
    | .name s, .mark "," | .name s, .mark ")" =>
      skip
      return .variable (← variableNamed s .unknown)
    | _, _ => expression n false

def splitArguments : Nat → Reading (List Expr)
  | 0 => unexpected
  | n + 1 => do
    let s ← expression n false
    expect ","
    match ← peek with
    | .name t =>
      let v ← variableNamed t .table
      skip
      if ← accept "," then return [s, .variable v, ← expression n false]
      else return [s, .variable v]
    | _ => unexpected

end

def depth : Reading Nat := return 24 * ((← get).tokens.size + 8)

def wholeExpression (inPrint : Bool := false) : Reading Expr := do
  expression (← depth) inPrint

def printed : Reading (List Expr) := do
  if endsPrinted (← peek) then return []
  else
    let bracketed : Reading (List Expr) := do
      expect "("
      let es ← argumentsOf (← depth)
      expect ")"
      if endsPrinted (← peek) then return es else unexpected
    match ← attempt bracketed with
    | some es => return es
    | none =>
      let n ← depth
      let rec go : Nat → List Expr → Reading (List Expr)
        | 0, _ => unexpected
        | k + 1, done => do
          if ← accept "," then go k ((← expression n true) :: done) else return done.reverse
      go n [← expression n true]

def outlet : Reading (Option (Outlet × Expr)) := do
  let kind : Option Outlet := match ← peek with
    | .mark ">" => some .file
    | .mark ">>" => some .append
    | .mark "|" => some .command
    | _ => none
  match kind with
  | some k =>
    skip
    return some (k, ← wholeExpression)
  | none => return none

def printing (isFormatted : Bool) : Reading Statement := do
  let es ← printed
  if isFormatted && es.isEmpty then note "no arguments in call to printf"
  let to' ← outlet
  endStatement
  return if isFormatted then .format es to' else .print es to'

def optional (mark : String) : Reading (Option Expr) := do
  if ← accept mark then return none
  else
    let e ← wholeExpression
    expect mark
    return some e

def skipLine : Reading Unit := do
  if (← peek) == .lineEnd then skip

def inLoop (x : Reading α) : Reading α := do
  modify fun r => { r with loops := r.loops + 1 }
  let a ← x
  modify fun r => { r with loops := r.loops - 1 }
  return a

mutual

def statement : Nat → Reading Statement
  | 0 => unexpected
  | n + 1 => do
    let t ← peek
    let simple (s : Statement) : Reading Statement := do
      endStatement
      return s
    let valued (make : Option Expr → Statement) : Reading Statement := do
      if (← peek).endsStatement then simple (make none)
      else
        let e ← wholeExpression
        simple (make (some e))
    if t.endsStatement then
      skip
      return .block []
    else
      match t with
      | .mark "\x7b" => block n
      | .word "if" =>
        skip
        expect "("
        let c ← wholeExpression
        expect ")"
        skipLine
        let a ← statement n
        if (← peek) == .word "else" then
          skip
          return .choose c a (some (← statement n))
        else return .choose c a none
      | .word "while" =>
        skip
        expect "("
        let c ← wholeExpression
        expect ")"
        skipLine
        return .whileLoop c (← inLoop (statement n))
      | .word "do" =>
        skip
        let s ← inLoop (statement n)
        if (← peek) != .word "while" then unexpected
        skip
        expect "("
        let c ← wholeExpression
        expect ")"
        simple (.untilLoop s c)
      | .word "for" =>
        skip
        expect "("
        match ← peek, ← peekAt 1, ← peekAt 2, ← peekAt 3 with
        | .name k, .word "in", .name t, .mark ")" =>
          let k ← variableNamed k .single
          let v ← variableNamed t .table
          skip 4
          skipLine
          return .forKeys (.variable k) v (← inLoop (statement n))
        | _, _, _, _ =>
          let start ← optional ";"
          let c ← optional ";"
          let behind ← optional ")"
          skipLine
          let s ← inLoop (statement n)
          let loop : Statement := .forLoop c behind s
          return match start with
            | some e => .block [.evaluate e, loop]
            | none => loop
      | .word "break" =>
        skip
        if (← get).loops = 0 then note "break statement outside of loop"
        simple .leaveLoop
      | .word "continue" =>
        skip
        if (← get).loops = 0 then note "continue statement outside of loop"
        simple .continueLoop
      | .word "next" =>
        if !(← get).hasRecord then note "improper use of next"
        skip
        simple .nextRecord
      | .word "nextfile" =>
        if !(← get).hasRecord then note "improper use of nextfile"
        skip
        simple .nextFile
      | .word "exit" =>
        skip
        valued .exit
      | .word "return" =>
        if !(← get).inFunction then note "return outside function body"
        skip
        valued .return
      | .word "delete" =>
        skip
        match ← peek with
        | .name s =>
          let v ← variableNamed s .table
          skip
          if ← accept "[" then
            let keys ← more (← depth) [← wholeExpression]
            expect "]"
            simple (.delete v keys)
          else simple (.clear v)
        | _ => unexpected
      | .word "print" =>
        skip
        printing false
      | .word "printf" =>
        skip
        printing true
      | _ =>
        let e ← wholeExpression
        simple (.evaluate e)

def block : Nat → Reading Statement
  | 0 => unexpected
  | n + 1 => do
    expect "\x7b"
    return .block (← statements n [])

/-- The statements up to the closing brace. Behind one that cannot be read the next one follows. -/
def statements : Nat → List Statement → Reading (List Statement)
  | 0, _ => unexpected
  | n + 1, done => do
    if ← accept "\x7d" then return done.reverse
    else
      match ← caught (statement n) with
      | .ok s => statements n (s :: done)
      | .error f =>
        if f.isLast then throw f
        else
          let r ← get
          if f.place ≥ r.quiet then set { r with faults := f :: r.faults }
          let r ← get
          let rest := (r.tokens.toList.drop r.place).takeWhile fun t =>
            !t.1.endsStatement && t.1 != .finish
          skip rest.length
          match ← peek with
          | .finish => unexpected
          | _ =>
            modify fun r => { r with quiet := r.place + 3 }
            skip
            statements n done

end

def wholeBlock (hasRecord : Bool) : Reading Statement := do
  modify ({ · with hasRecord, loops := 0 })
  block (← depth)

def parameters : Nat → List String → Reading (List String)
  | 0, _ => unexpected
  | n + 1, done => do
    match ← peek with
    | .name s =>
      skip
      if ← accept "," then parameters n (s :: done)
      else
        expect ")"
        return (s :: done).reverse
    | _ =>
      if done.isEmpty then
        expect ")"
        return []
      else unexpected

def function : Reading Unit := do
  let name ← match ← peek with
    | .name s | .called s => pure s
    | _ => unexpected
  skip
  let i ← functionNamed name
  if ((← get).functions.getD i default).2.isSome then stopWith ("redefinition of " ++ name)
  expect "("
  let ps ← parameters ((← get).tokens.size + 1) []
  skipLine
  let draft : Function := { arity := ps.length, body := .block [] }
  modify fun r => { r with
    parameters := ps, inFunction := true
    functions := r.functions.setIfInBounds i (name, some draft) }
  let body ← wholeBlock false
  modify fun r => { r with
    parameters := [], inFunction := false
    functions := r.functions.setIfInBounds i (name, some { draft with body }) }

def rules : Nat → List Rule → Reading (List Rule)
  | 0, _ => unexpected
  | n + 1, done => do
    match ← peek with
    | .finish => return done.reverse
    | .word "function" =>
      skip
      function
      rules n done
    | .word "BEGIN" =>
      skip
      let body ← wholeBlock false
      rules n ({ pattern := .begin, body } :: done)
    | .word "END" =>
      skip
      let body ← wholeBlock false
      rules n ({ pattern := .finish, body } :: done)
    | .mark "\x7b" =>
      let body ← wholeBlock true
      rules n ({ pattern := .always, body } :: done)
    | _ =>
      let a ← wholeExpression
      let pattern ← if ← accept "," then do
          let b ← wholeExpression
          let k := (← get).ranges
          modify ({ · with ranges := k + 1 })
          pure (Pattern.range k a b)
        else pure (Pattern.test a)
      if ← isNext "\x7b" then
        let body ← wholeBlock true
        rules n ({ pattern, body } :: done)
      else
        endStatement
        rules n ({ pattern, body := none } :: done)

def callFaults (r : Reader) : List Fault :=
  let last := r.tokens.back?.getD (.finish, 0)
  let missing : List Fault := r.functions.toList.reverse.filterMap fun (name, f) =>
    match f with
    | some _ => none
    | none =>
      some { place := r.tokens.size, line := last.2
             message := "function " ++ name ++ " never defined" }
  let excess : List Fault := r.calls.reverse.filterMap fun (f, n, place, line) =>
    match r.functions.getD f default with
    | (name, some f) =>
      if n > f.arity then
        some { place, line, message := "too many arguments in call to " ++ name }
      else none
    | _ => none
  excess ++ missing

def readScript (text : String) : Except (List Fault) Script :=
  let (tokens, loose) := tokens text
  let start : Reader := { tokens }
  let loose : List Fault := loose.map fun (place, line, message) => { place, line, message }
  let (faults, script) : List Fault × Option Script :=
    match (rules (tokens.size + 2) []).run.run start with
    | (.ok rules, r) =>
      let functions := r.functions.map fun f => f.2.getD default
      let seen := loose ++ r.faults.reverse
      (if seen.isEmpty then callFaults r else seen, some { rules, functions, names := r.names })
    | (.error f, r) => ((loose ++ r.faults.reverse).filter (·.place ≤ f.place) ++ [f], none)
  match faults, script with
  | [], some s => .ok s
  | _, _ => .error (faults.mergeSort fun a b => a.place ≤ b.place)

end Remedy.Tool.Records
