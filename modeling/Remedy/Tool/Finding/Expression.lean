import Remedy.Files.Permission
import Remedy.Regex.Matching
import Remedy.Shell.Pattern

namespace Remedy.Tool.Finding

open Files

structure Bound where
  order : Ordering
  value : Nat
deriving Repr

def Bound.holds (b : Bound) (n : Int) : Bool := compare n b.value == b.order

inductive Bits where
  | exactly
  | all
  | any
deriving DecidableEq, Repr

inductive Running where
  | each
  | inPlace
  | many (number : Nat)
  | asked
deriving DecidableEq, Repr

inductive Primary where
  | yes
  | no
  | name (pattern : String) (ignoresCase whole : Bool)
  | target (pattern : String) (ignoresCase : Bool)
  | regex (r : Regex.Compiled)
  /-- The kinds by their letters; links are seen the other way round if `other` is set. -/
  | kind (letters : List Char) (other : Bool)
  | size (b : Bound) (unit : Nat)
  | empty
  | newer (than : Int)
  | days (b : Bound)
  | minutes (b : Bound)
  | mode (bits : Nat) (which : Bits)
  | user (b : Bound)
  | group (b : Bound)
  | unknownUser
  | unknownGroup
  | links (b : Bound)
  | inode (b : Bound)
  | same (inode : Nat)
  | executable
  | prune
  | quit
  | delete
  | print (finish : String) (file : Option String)
  | format (text : String) (file : Option String)
  | list (file : Option String)
  | run (words : List String) (how : Running)

def Primary.isAction : Primary → Bool
  | .delete | .print .. | .format .. | .list _ | .run .. => true
  | _ => false

inductive Expression where
  | primary (p : Primary)
  | not (e : Expression)
  | and (a b : Expression)
  | or (a b : Expression)
  | both (a b : Expression)

namespace Expression

def any (f : Primary → Bool) : Expression → Bool
  | .primary p => f p
  | .not e => e.any f
  | .and a b | .or a b | .both a b => a.any f || b.any f

end Expression

structure Plan where
  most : Option Nat := none
  least : Nat := 0
  isDeep : Bool := false
  follows : Bool := false
  followsOperands : Bool := false
  isExtended : Bool := false
  commands : Nat := 0

/-- What is left to read, and the primary or operator read last. -/
structure Reader where
  words : List String
  last : String := ""
  plan : Plan := {}

abbrev Reading := StateT Reader (Except String)

namespace Reading

def next? : Reading (Option String) := return (← get).words.head?

def take : Reading Unit := modify fun r => { r with words := r.words.drop 1 }

def takeName : Reading Unit :=
  modify fun r => { r with words := r.words.drop 1, last := r.words.headD r.last }

def change (f : Plan → Plan) : Reading Unit := modify fun r => { r with plan := f r.plan }

def argument (name : String) : Reading String := do
  match ← next? with
  | some w =>
    take
    return w
  | none => throw ("missing argument to \x60" ++ name ++ "'")

end Reading

def natural? (cs : List Char) : Option Nat :=
  if !cs.isEmpty && cs.all Char.isDigit then
    some (cs.foldl (fun n c => 10 * n + (c.toNat - 48)) 0)
  else none

def bound? (cs : List Char) : Option Bound :=
  match cs with
  | '+' :: cs => (natural? cs).map fun n => ⟨.gt, n⟩
  | '-' :: cs => (natural? cs).map fun n => ⟨.lt, n⟩
  | cs => (natural? cs).map fun n => ⟨.eq, n⟩

def bound (name word : String) : Reading Bound := do
  match bound? word.toList with
  | some b => return b
  | none => throw ("invalid argument \x60" ++ word ++ "' to \x60" ++ name ++ "'")

def unit? : Char → Option Nat
  | 'b' => some 512
  | 'c' => some 1
  | 'w' => some 2
  | 'k' => some 1024
  | 'M' => some 1048576
  | 'G' => some 1073741824
  | _ => none

def size (word : String) : Reading Primary := do
  let cs := word.toList
  let (digits, unit) ← match cs.getLast? with
    | none => throw "invalid null argument to -size"
    | some c =>
      match unit? c with
      | some u => pure (cs.dropLast, u)
      | none =>
        if c.isDigit then pure (cs, 512)
        else throw ("invalid -size type \x60" ++ String.singleton c ++ "'")
  match bound? digits with
  | some b => return .size b unit
  | none => throw ("Invalid argument \x60" ++ word ++ "' to -size")

def kinds (name word : String) : Reading (List Char) := do
  if word == "" then throw ("Arguments to " ++ name ++ " should contain at least one letter")
  let pieces := word.splitOn ","
  pieces.mapM fun piece => do
    match piece.toList with
    | [c] =>
      if "bcdpflsD".toList.contains c then return c
      else throw ("Unknown argument to " ++ name ++ ": " ++ String.singleton c)
    | [] => throw ("Last file type in list argument to " ++ name ++ " is missing, i.e., list is " ++
        "ending on: ','")
    | c :: _ =>
      if "bcdpflsD".toList.contains c then
        throw ("Must separate multiple arguments to " ++ name ++ " using: ','")
      else throw ("Unknown argument to " ++ name ++ ": " ++ String.singleton c)

def mode (word : String) : Reading Primary := do
  let cs := word.toList
  let (which, text) := match cs with
    | '-' :: rest => (Bits.all, String.ofList rest)
    | '/' :: rest => (Bits.any, String.ofList rest)
    | cs => (Bits.exactly, String.ofList cs)
  match Permission.read? text with
  | some m => return .mode (m.apply false 0 0) which
  | none => throw ("invalid mode '" ++ word ++ "'")

/-- What the reader has to know of the files: when one was changed, its number, what moment a text
means, and the numbers of users and groups. -/
structure Facts where
  isThere : String → Bool
  modified : String → Except Errno Int
  number : String → Except Errno Nat
  moment : String → Option Int
  user : String → Option Nat
  group : String → Option Nat

def orFail (word : String) : Except Errno α → Reading α
  | .ok a => return a
  | .error e => throw ("'" ++ word ++ "': " ++ e.message)

def command (name : String) : Nat → List String → Reading (List String × Bool)
  | 0, _ => throw ("missing argument to \x60" ++ name ++ "'")
  | n + 1, done => do
    match ← Reading.next? with
    | none => throw ("missing argument to \x60" ++ name ++ "'")
    | some ";" =>
      Reading.take
      if done.isEmpty then throw ("invalid argument \x60;' to \x60" ++ name ++ "'")
      return (done.reverse, false)
    | some "+" =>
      Reading.take
      if done.head? == some "\x7b\x7d" && (name == "-exec" || name == "-execdir") then
        return (done.reverse, true)
      else command name n ("+" :: done)
    | some w =>
      Reading.take
      command name n (w :: done)

def running (name : String) : Reading Primary := do
  let (words, many) ← command name ((← get).words.length + 1) []
  if many then
    if (words.filter fun w => (w.splitOn "\x7b\x7d").length > 1).length > 1 then
      throw ("Only one instance of \x7b\x7d is supported with " ++ name ++ " ... +")
    let n := (← get).plan.commands
    Reading.change fun p => { p with commands := n + 1 }
    return .run words.dropLast (.many n)
  else
    return .run words (match name with
      | "-execdir" => .inPlace
      | "-ok" | "-okdir" => .asked
      | _ => .each)

def regex (word : String) (ignoresCase : Bool) : Reading Primary := do
  let isExtended := (← get).plan.isExtended
  let pattern := if isExtended then word else String.ofList (Regex.toBasic false word.toList)
  let whole := if isExtended then "^(" ++ pattern ++ ")$" else "^\\(" ++ pattern ++ "\\)$"
  match Regex.read { isExtended } pattern *> Regex.read { isExtended } whole with
  | .ok r => return .regex (Regex.compile (if ignoresCase then r.ignoringCase else r))
  | .error e => throw ("failed to compile regular expression '" ++ word ++ "': " ++ e)

def primary (facts : Facts) (name : String) : Reading Primary := do
  let argument := Reading.argument name
  let depth : Reading Nat := do
    let w ← argument
    match natural? w.toList with
    | some n => return n
    | none =>
      throw ("Expected a positive decimal integer argument to " ++ name ++ ", but got '" ++ w ++ "'")
  let always (f : Plan → Plan) : Reading Primary := do
    Reading.change f
    return .yes
  match name with
  | "-true" | "-daystart" | "-noleaf" | "-mount" | "-xdev" | "-warn" | "-nowarn"
  | "-ignore_readdir_race" | "-noignore_readdir_race" => return .yes
  | "-false" => return .no
  | "-maxdepth" =>
    let n ← depth
    always ({ · with most := some n })
  | "-mindepth" =>
    let n ← depth
    always ({ · with least := n })
  | "-depth" | "-d" => always ({ · with isDeep := true })
  | "-follow" => always ({ · with follows := true })
  | "-regextype" =>
    let w ← argument
    always ({ · with isExtended := w == "egrep" || w == "posix-egrep" || w == "posix-extended" ||
      w == "awk" || w == "posix-awk" || w == "gnu-awk" })
  | "-name" => return .name (← argument) false false
  | "-iname" => return .name (← argument) true false
  | "-path" | "-wholename" => return .name (← argument) false true
  | "-ipath" | "-iwholename" => return .name (← argument) true true
  | "-lname" => return .target (← argument) false
  | "-ilname" => return .target (← argument) true
  | "-regex" => regex (← argument) false
  | "-iregex" => regex (← argument) true
  | "-type" => return .kind (← kinds name (← argument)) false
  | "-xtype" => return .kind (← kinds name (← argument)) true
  | "-size" => size (← argument)
  | "-empty" => return .empty
  | "-newer" | "-anewer" | "-cnewer" | "-newermm" | "-newerma" | "-newermc" | "-neweraa"
  | "-newercc" | "-newerac" | "-newerca" | "-newercm" | "-neweram" =>
    let w ← argument
    return .newer (← orFail w (facts.modified w))
  | "-newermt" | "-newerat" | "-newerct" =>
    let w ← argument
    match facts.moment w with
    | some n => return .newer n
    | none => throw ("I cannot figure out how to interpret '" ++ w ++ "' as a date or time")
  | "-mtime" | "-atime" | "-ctime" => return .days (← bound name (← argument))
  | "-mmin" | "-amin" | "-cmin" => return .minutes (← bound name (← argument))
  | "-perm" => mode (← argument)
  | "-user" =>
    let w ← argument
    match facts.user w with
    | some n => return .user ⟨.eq, n⟩
    | none => throw ("'" ++ w ++ "' is not the name of a known user")
  | "-group" =>
    let w ← argument
    match facts.group w with
    | some n => return .group ⟨.eq, n⟩
    | none =>
      let rest := String.ofList (w.toList.dropWhile Char.isDigit)
      throw ("'" ++ w ++ "' is not the name of an existing group" ++
        (if rest.length < w.length then
          " and it does not look like a numeric group ID because it has the unexpected suffix '" ++
            rest ++ "'"
        else ""))
  | "-uid" => return .user (← bound name (← argument))
  | "-gid" => return .group (← bound name (← argument))
  | "-nouser" => return .unknownUser
  | "-nogroup" => return .unknownGroup
  | "-links" => return .links (← bound name (← argument))
  | "-inum" => return .inode (← bound name (← argument))
  | "-samefile" =>
    let w ← argument
    return .same (← orFail w (facts.number w))
  | "-readable" | "-writable" => return .yes
  | "-executable" => return .executable
  | "-prune" => return .prune
  | "-quit" => return .quit
  | "-delete" =>
    Reading.change ({ · with isDeep := true })
    return .delete
  | "-print" => return .print "\n" none
  | "-print0" => return .print "\x00" none
  | "-fprint" => return .print "\n" (some (← argument))
  | "-fprint0" => return .print "\x00" (some (← argument))
  | "-printf" => return .format (← argument) none
  | "-fprintf" =>
    let file ← argument
    return .format (← argument) (some file)
  | "-ls" => return .list none
  | "-fls" => return .list (some (← argument))
  | "-exec" | "-execdir" | "-ok" | "-okdir" => running name
  | _ => throw ("unknown predicate \x60" ++ name ++ "'")

/-- How strongly operators bind, the weakest first. -/
inductive Strength where
  | both
  | or
  | and
  | single
deriving DecidableEq, Repr

def isOr (w : String) : Bool := w == "-o" || w == "-or"

def isAnd (w : String) : Bool := w == "-a" || w == "-and"

def expression (facts : Facts) : Nat → Strength → String → Reading Expression
  | 0, _, _ => throw "invalid expression"
  | fuel + 1, strength, operator => do
    -- operands of one strength, with their operators between them
    let rec more (build : Expression → Expression → Expression) (isMine : String → Bool)
        (operand : String → Reading Expression) : Nat → Expression → Reading Expression
      | 0, e => return e
      | n + 1, e => do
        match ← Reading.next? with
        | none => return e
        | some w =>
          if isMine w then
            Reading.takeName
            more build isMine operand n (build e (← operand w))
          else return e
    let length := (← get).words.length
    match strength with
    | .both =>
      let e ← expression facts fuel .or operator
      more .both (· == ",") (expression facts fuel .or) length e
    | .or =>
      let e ← expression facts fuel .and operator
      more .or isOr (expression facts fuel .and) length e
    | .and =>
      let rec chain (operand : String → Reading Expression) : Nat → Expression →
          Reading Expression
        | 0, e => return e
        | n + 1, e => do
          match ← Reading.next? with
          | none => return e
          | some w =>
            if isOr w || w == "," || w == ")" then return e
            else
              if isAnd w then Reading.takeName
              chain operand n (.and e (← operand (if isAnd w then w else "")))
      let e ← expression facts fuel .single operator
      chain (expression facts fuel .single) length e
    | .single =>
      match ← Reading.next? with
      | none =>
        if operator == "" then throw "invalid expression"
        else throw ("expected an expression after '" ++ operator ++ "'")
      | some w =>
        if w == "!" || w == "-not" then
          Reading.takeName
          return .not (← expression facts fuel .single w)
        else if w == "(" then
          Reading.takeName
          if (← Reading.next?) == some ")" then
            throw "invalid expression; empty parentheses are not allowed."
          let e ← expression facts fuel .both w
          match ← Reading.next? with
          | some ")" =>
            Reading.takeName
            return e
          | _ =>
            throw ("invalid expression; I was expecting to find a ')' somewhere but did not see one.")
        else if w == ")" then throw "invalid expression; you have too many ')'"
        else if isOr w || isAnd w || w == "," then
          throw ("invalid expression; you have used a binary operator '" ++ w ++
            "' with nothing before it.")
        else if w.startsWith "-" && w.length > 1 then
          Reading.takeName
          return .primary (← primary facts w)
        else
          let last := (← get).last
          let hint := if last == "" || !facts.isThere w then ""
            else "\nfind: possible unquoted pattern after predicate \x60" ++ last ++ "'?"
          throw ("paths must precede expression: \x60" ++ w ++ "'" ++ hint)

/-- Reads a whole expression; where there is no action the files are printed. -/
def readExpression (facts : Facts) (plan : Plan) (words : List String) :
    Except String (Expression × Plan) := do
  if words.isEmpty then return (.primary (.print "\n" none), plan)
  let reading : Reading Expression := do
    let e ← expression facts (6 * words.length + 10) .both ""
    match ← Reading.next? with
    | some ")" => throw "you have too many ')'"
    | _ => return e
  let (e, r) ← reading.run { words, plan }
  let e := if e.any Primary.isAction then e else .and e (.primary (.print "\n" none))
  return (e, r.plan)

end Remedy.Tool.Finding
