import Remedy.Regex.Matching
import Remedy.Text.Escape

namespace Remedy.Tool.Editing

/-- An expression, or the one that was used last where there is none. -/
structure Searched where
  regex : Option Regex.Compiled
  multiline : Bool := false

inductive Address where
  | number (n : Nat)
  | last
  | matching (s : Searched)
  | every (first step : Nat)
  | further (n : Nat)
  | multiple (n : Nat)

structure Addresses where
  first : Option Address := none
  second : Option Address := none
  isNegated : Bool := false

inductive Case where
  | keep
  | upper
  | lower
  | upperNext
  | lowerNext
deriving DecidableEq, Repr

inductive Piece where
  | text (s : String)
  | group (n : Nat)
  | case (c : Case)

structure Substitution where
  searched : Searched
  replacement : List Piece
  isGlobal : Bool := false
  nth : Nat := 1
  prints : Bool := false
  /-- Whether what comes out is run as a command, and whether it is printed before that. -/
  isCommand : Bool := false
  printsBefore : Bool := false
  output : Option String := none

inductive Action where
  | beginBlock (finish : Nat)
  | endBlock
  | append (text : String)
  | insert (text : String)
  | change (text : String)
  | branch (target : Nat)
  | branchIf (target : Nat)
  | branchUnless (target : Nat)
  | delete
  | deleteFirst
  | execute (command : String)
  | getHold
  | addHold
  | hold
  | holdMore
  | exchange
  | list (width : Option Nat)
  | next
  | nextMore
  | print
  | printFirst
  | quit (status : Nat)
  | quitSilently (status : Nat)
  | read (path : String)
  | readLine (path : String)
  | substitute (s : Substitution)
  | write (path : String)
  | writeFirst (path : String)
  | translate (pairs : List (Char × Char))
  | number
  | name
  | clear
  | nothing

structure Command where
  addresses : Addresses
  action : Action

/-- A command before the labels of branches are known. -/
inductive Draft where
  | plain (a : Action)
  | label (name : String)
  | jump (make : Nat → Action) (label : String)
  | opening
  | closing

structure Reader where
  rest : List Char
  place : Nat := 0
  isExtended : Bool := false
  commands : List (Addresses × Draft) := []
  blocks : List Nat := []

abbrev Reading := StateT Reader (Except (Nat × String))

namespace Reading

def complain (message : String) : Reading α := do throw ((← get).place, message)

def peek : Reading (Option Char) := return (← get).rest.head?

def take : Reading (Option Char) := do
  let r ← get
  match r.rest with
  | [] => return none
  | c :: rest =>
    set { r with rest, place := r.place + 1 }
    return some c

def skip (n : Nat) : Reading Unit := modify fun r =>
  { r with rest := r.rest.drop n, place := r.place + n }

def takeWhile (p : Char → Bool) : Reading (List Char) := do
  let cs := (← get).rest.takeWhile p
  skip cs.length
  return cs

def isBlank (c : Char) : Bool := c == ' ' || ('\t' ≤ c && c ≤ '\r')

def skipBlanks : Reading Unit := do
  let _ ← takeWhile fun c => isBlank c && c != '\n'

def natural : Reading (Option Nat) := do
  let cs ← takeWhile Char.isDigit
  return if cs.isEmpty then none else some (cs.foldl (fun n c => 10 * n + (c.toNat - 48)) 0)

/-- What stands up to a delimiter that is not escaped; `none` if it is not there. In an expression a
delimiter that is escaped loses its backslash, and a new line may be named. -/
def delimited (delimiter : Char) (isExpression : Bool) : Reading (Option (List Char)) := do
  let rec go : Nat → Bool → List Char → Reading (Option (List Char))
    | 0, _, _ => return none
    | n + 1, inBrackets, done => do
      match ← take with
      | none => return none
      | some c =>
        if c == delimiter && !inBrackets then return some done.reverse
        else if c == '\\' then
          match ← take with
          | none => return none
          | some d =>
            if d == delimiter then
              -- what has a meaning of its own behind a backslash keeps it
              let keeps := isExpression && "nt".toList.contains d
              go n inBrackets (if keeps then d :: '\\' :: done else d :: done)
            else if d == 'n' && isExpression && !inBrackets then go n inBrackets ('n' :: '\\' :: done)
            else if d == '\n' && isExpression then go n inBrackets ('\n' :: done)
            else go n inBrackets (d :: '\\' :: done)
        else if c == '\n' && isExpression then return none
        else go n inBrackets (c :: done)
  go ((← get).rest.length + 1) false []

end Reading

open Reading

def bareClassPlace : Nat := 1000000000

/-- An expression made ready; the empty one stands for the last one used. -/
def searched (cs : List Char) (ignoresCase multiline : Bool) : Reading Searched := do
  if cs.isEmpty then return { regex := none, multiline }
  else
    if Regex.hasBareClass cs then throw (bareClassPlace, Regex.bareClass)
    let n : Regex.Manner := { isExtended := (← get).isExtended, hasEscapes := true }
    match Regex.read n (String.ofList (numbered cs)) with
    | .ok r =>
      let r := if ignoresCase then r.ignoringCase else r
      return { regex := some (Regex.compile r), multiline }
    | .error message => complain message
where
  numbered : List Char → List Char
    | '\\' :: c :: rest =>
      let digits (count : Nat) (isDigit : Char → Bool) : List Char :=
        (rest.take count).takeWhile isDigit
      let plain (c : Char) : List Char :=
        if "*.[]\\^$+?()\x7b\x7d|".toList.contains c then ['\\', c] else [c]
      match c with
      | 'x' =>
        let ds := digits 2 Text.Escape.isHexadecimal
        if ds.isEmpty then '\\' :: c :: numbered rest
        else plain (Char.ofNat (Text.Escape.value 16 ds)) ++ skipping ds.length rest
      | 'o' =>
        let ds := digits 3 Text.Escape.isOctal
        if ds.isEmpty then '\\' :: c :: numbered rest
        else plain (Char.ofNat (Text.Escape.value 8 ds % 256)) ++ skipping ds.length rest
      | 'd' =>
        let ds := digits 3 Char.isDigit
        if ds.isEmpty then '\\' :: c :: numbered rest
        else plain (Char.ofNat (Text.Escape.value 10 ds % 256)) ++ skipping ds.length rest
      | c => '\\' :: c :: numbered rest
    | c :: rest => c :: numbered rest
    | [] => []
  skipping : Nat → List Char → List Char
    | 0, cs => numbered cs
    | _ + 1, [] => []
    | n + 1, _ :: cs => skipping n cs

def pieces : Nat → List Char → List Char → List Piece
  | 0, _, _ => []
  | fuel + 1, cs, text =>
    let out (p : Piece) (rest : List Char) : List Piece :=
      (if text.isEmpty then [] else [.text (String.ofList text.reverse)]) ++ p :: pieces fuel rest []
    match cs with
    | [] => if text.isEmpty then [] else [.text (String.ofList text.reverse)]
    | '&' :: rest => out (.group 0) rest
    | '\\' :: c :: rest =>
      let plain (d : Char) (rest : List Char) : List Piece := pieces fuel rest (d :: text)
      let coded (base count : Nat) (isDigit : Char → Bool) : List Piece :=
        let ds := (rest.take count).takeWhile isDigit
        if ds.isEmpty then plain c rest
        else plain (Char.ofNat (Text.Escape.value base ds % 256)) (rest.drop ds.length)
      match c with
      | 'U' => out (.case .upper) rest
      | 'L' => out (.case .lower) rest
      | 'E' => out (.case .keep) rest
      | 'u' => out (.case .upperNext) rest
      | 'l' => out (.case .lowerNext) rest
      | 'n' => plain '\n' rest
      | 't' => plain '\t' rest
      | 'r' => plain '\r' rest
      | 'f' => plain '\x0c' rest
      | 'v' => plain '\x0b' rest
      | 'a' => plain '\x07' rest
      | 'x' => coded 16 2 Text.Escape.isHexadecimal
      | 'o' => coded 8 3 Text.Escape.isOctal
      | 'd' => coded 10 3 Char.isDigit
      | 'c' =>
        match rest with
        | d :: rest => plain (Char.ofNat ((d.toUpper.toNat + 64) % 128)) rest
        | [] => plain 'c' []
      | c =>
        if c.isDigit then out (.group (c.toNat - 48)) rest else plain c rest
    | c :: rest => pieces fuel rest (c :: text)

def fileName : Reading String := do
  skipBlanks
  let cs ← takeWhile (· != '\n')
  if cs.isEmpty then complain "missing filename in r/R/w/W commands"
  return String.ofList cs

def endCommand : Reading Unit := do
  skipBlanks
  match ← peek with
  | none =>
    let _ ← take
  | some '}' | some '#' => pure ()
  | some c =>
    let _ ← take
    if c != '\n' && c != ';' then complain "extra characters after command"

def substitutionFlags : Nat → Substitution → Bool → Bool → Bool →
    Reading (Substitution × Bool × Bool)
  | 0, s, i, m, _ => return (s, i, m)
  | fuel + 1, s, i, m, hasNumber => do
    match ← peek with
    | some 'g' =>
      skip 1
      if s.isGlobal then complain "multiple `g' options to `s' command"
      substitutionFlags fuel { s with isGlobal := true } i m hasNumber
    | some 'p' =>
      skip 1
      if s.prints then complain "multiple `p' options to `s' command"
      substitutionFlags fuel { s with prints := true } i m hasNumber
    | some 'i' | some 'I' =>
      skip 1
      substitutionFlags fuel s true m hasNumber
    | some 'm' | some 'M' =>
      skip 1
      substitutionFlags fuel s i true hasNumber
    | some 'e' =>
      skip 1
      substitutionFlags fuel { s with isCommand := true, printsBefore := s.prints } i m hasNumber
    | some 'w' =>
      skip 1
      let path ← fileName
      return ({ s with output := some path }, i, m)
    | some '}' | some '#' => return (s, i, m)
    | some '\r' | some '\n' | some ';' | none =>
      let _ ← take
      return (s, i, m)
    | some c =>
      if c.isDigit then
        if hasNumber then
          skip 1
          complain "multiple number options to `s' command"
        let n := (← natural).getD 0
        if n = 0 then complain "number option to `s' command may not be zero"
        substitutionFlags fuel { s with nth := n } i m true
      else if isBlank c then
        skip 1
        substitutionFlags fuel s i m hasNumber
      else
        skip 1
        complain "unknown option to `s'"

def substitution : Reading Substitution := do
  match ← take with
  | none => complain "unterminated `s' command"
  | some delimiter =>
    if delimiter == '\n' || delimiter == '\\' then complain "unterminated `s' command"
    match ← delimited delimiter true with
    | none => complain "unterminated `s' command"
    | some expression =>
      match ← delimited delimiter false with
      | none => complain "unterminated `s' command"
      | some text =>
        let replacement := pieces (text.length + 1) text []
        let draft : Substitution := { searched := { regex := none }, replacement }
        let (s, i, m) ← substitutionFlags ((← get).rest.length + 1) draft false false false
        let found ← searched expression i m
        let greatest := replacement.foldl (fun n p => match p with
          | .group k => max n k
          | _ => n) 0
        match found.regex with
        | some r =>
          if greatest > r.groups then
            complain ("invalid reference \\" ++ toString greatest ++ " on `s' command's RHS")
        | none => pure ()
        return { s with searched := found }

def sides : List Char → List Char
  | '\\' :: '\\' :: rest => '\\' :: sides rest
  | '\\' :: 'n' :: rest => '\n' :: sides rest
  | '\\' :: 't' :: rest => '\t' :: sides rest
  | '\\' :: 'r' :: rest => '\r' :: sides rest
  | c :: rest => c :: sides rest
  | [] => []

def translation : Reading Action := do
  let unterminated : String := "unterminated `y' command"
  match ← take with
  | none => complain unterminated
  | some delimiter =>
    match ← delimited delimiter false with
    | none => complain unterminated
    | some a =>
      match ← delimited delimiter false with
      | none => complain unterminated
      | some b =>
        let a := sides a
        let b := sides b
        if a.length ≠ b.length then complain "strings for `y' command are different lengths"
        endCommand
        return .translate (a.zip b)

def textEscape (c : Char) (rest : List Char) : Char × List Char :=
  let coded (base count : Nat) (isDigit : Char → Bool) : Char × List Char :=
    let ds := (rest.take count).takeWhile isDigit
    if ds.isEmpty then (c, rest)
    else (Char.ofNat (Text.Escape.value base ds % 256), rest.drop ds.length)
  match c with
  | 'a' => ('\x07', rest)
  | 'f' => ('\x0c', rest)
  | 'n' => ('\n', rest)
  | 'r' => ('\r', rest)
  | 't' => ('\t', rest)
  | 'v' => ('\x0b', rest)
  | 'd' => coded 10 3 Char.isDigit
  | 'o' => coded 8 3 Text.Escape.isOctal
  | 'x' => coded 16 2 Text.Escape.isHexadecimal
  | c => (c, rest)

def textLines : Nat → List Char → Reading (List Char)
  | 0, done => return done.reverse
  | n + 1, done => do
    match ← take with
    | none | some '\n' => return ('\n' :: done).reverse
    | some '\\' =>
      match ← take with
      | none => return ('\n' :: done).reverse
      | some c =>
        let before := (← get).rest
        let (d, rest) := textEscape c before
        skip (before.length - rest.length)
        textLines n (d :: done)
    | some c => textLines n (c :: done)

/-- The text of a command that adds lines. A backslash in front keeps the blanks of its first line;
at the very end it stands for no text at all. -/
def addedText : Reading String := do
  skipBlanks
  match ← peek with
  | none => complain "expected \\ after `a', `c' or `i'"
  | some '\\' =>
    skip 1
    match ← peek with
    | none => return ""
    | some '\n' =>
      skip 1
      text []
    | some c =>
      -- what the backslash is in front of stands for itself
      if c == '\\' || isBlank c then text []
      else
        skip 1
        text [c]
  | some _ => text []
where
  text (start : List Char) : Reading String := do
    return String.ofList (← textLines ((← get).rest.length + 1) start)

def address : Reading (Option Address) := do
  match ← peek with
  | none => return none
  | some c =>
    if c.isDigit then
      let n := (← natural).getD 0
      skipBlanks
      if (← peek) == some '~' then
        skip 1
        skipBlanks
        return some (.every n ((← natural).getD 0))
      else return some (.number n)
    else if c == '$' then
      skip 1
      return some .last
    else if c == '/' || c == '\\' then
      skip 1
      let delimiter ← if c == '\\' then take else pure (some '/')
      match delimiter with
      | none => complain "unterminated address regex"
      | some delimiter =>
        match ← delimited delimiter true with
        | none => complain "unterminated address regex"
        | some cs =>
          let flags ← takeWhile fun c => c == 'I' || c == 'M'
          return some (.matching (← searched cs (flags.contains 'I') (flags.contains 'M')))
    else if c == '+' || c == '~' then
      let r ← get
      skip 1
      match ← natural with
      | some n => return some (if c == '+' then .further n else .multiple n)
      | none =>
        set r
        return none
    else return none

def addresses : Reading Addresses := do
  let first ← address
  match first with
  | some (.further _) | some (.multiple _) =>
    complain "invalid usage of +N or ~N as first address"
  | _ => pure ()
  skipBlanks
  let second ← if first.isSome && (← peek) == some ',' then do
      skip 1
      skipBlanks
      match ← address with
      | some a => pure (some a)
      | none =>
        skip 1
        complain "unexpected `,'"
    else pure none
  match first, second with
  | some (.number 0), some (.matching _) => pure ()
  | some (.number 0), _ =>
    skip 1
    complain "invalid usage of line address 0"
  | _, _ => pure ()
  skipBlanks
  let bangs ← takeWhile fun c => c == '!' || c == ' '
  if bangs.countP (· == '!') > 1 then
    complain "multiple `!'s"
  return { first, second, isNegated := bangs.contains '!' }

def labelName : Reading String := do
  skipBlanks
  let cs ← takeWhile fun c => !isBlank c && c != ';' && c != '\x7d'
  return String.ofList cs

def draft (a : Addresses) (c : Char) : Reading Draft := do
  let plain (x : Action) : Reading Draft := do
    endCommand
    return .plain x
  let single (x : Action) : Reading Draft := do
    if a.second.isSome then complain "command only uses one address"
    plain x
  match c with
  | '{' => return .opening
  | '}' =>
    if (← get).blocks.isEmpty then complain "unexpected `\x7d'"
    if a.first.isSome then complain "\x7d doesn't want any addresses"
    endCommand
    return .closing
  | '=' => plain .number
  | 'a' => return .plain (.append (← addedText))
  | 'i' => return .plain (.insert (← addedText))
  | 'c' => return .plain (.change (← addedText))
  | ':' =>
    if a.first.isSome then complain ": doesn't want any addresses"
    let name ← labelName
    if name == "" then complain "\":\" lacks a label"
    return .label name
  | 'b' => return .jump .branch (← labelName)
  | 't' => return .jump .branchIf (← labelName)
  | 'T' => return .jump .branchUnless (← labelName)
  | 'd' => plain .delete
  | 'D' => plain .deleteFirst
  | 'e' =>
    skipBlanks
    let cs ← takeWhile (· != '\n')
    let _ ← take
    return .plain (.execute (String.ofList cs))
  | 'g' => plain .getHold
  | 'G' => plain .addHold
  | 'h' => plain .hold
  | 'H' => plain .holdMore
  | 'x' => plain .exchange
  | 'l' =>
    skipBlanks
    let n ← natural
    plain (.list n)
  | 'n' => plain .next
  | 'N' => plain .nextMore
  | 'p' => plain .print
  | 'P' => plain .printFirst
  | 'q' =>
    skipBlanks
    let n ← natural
    single (.quit (n.getD 0))
  | 'Q' =>
    skipBlanks
    let n ← natural
    single (.quitSilently (n.getD 0))
  | 'r' => return .plain (.read (← named))
  | 'R' => return .plain (.readLine (← named))
  | 's' => return .plain (.substitute (← substitution))
  | 'w' => return .plain (.write (← named))
  | 'W' => return .plain (.writeFirst (← named))
  | 'y' => return .plain (← translation)
  | 'F' => plain .name
  | 'z' => plain .clear
  | 'v' =>
    let _ ← labelName
    return .plain .nothing
  | c => complain ("unknown command: `" ++ String.singleton c ++ "'")
where
  named : Reading String := do
    let path ← fileName
    let _ ← take
    return path

def commands : Nat → Reading Unit
  | 0 => return
  | fuel + 1 => do
    let _ ← takeWhile fun c => isBlank c || c == ';'
    match ← peek with
    | none => return
    | some '#' =>
      let _ ← takeWhile (· != '\n')
      commands fuel
    | some _ =>
      let a ← addresses
      match ← take with
      | none => complain "missing command"
      | some c =>
        if c == '\n' || c == ';' then complain "missing command"
        if c == '#' then
          complain "comments don't accept any addresses"
        let d ← draft a c
        let r ← get
        match d with
        | .opening => set { r with blocks := r.place :: r.blocks }
        | .closing => set { r with blocks := r.blocks.drop 1 }
        | _ => pure ()
        modify fun r => { r with commands := (a, d) :: r.commands }
        commands fuel

/-- The place behind the block that begins before some commands. -/
def blockEnd : Nat → Nat → List Draft → Nat
  | _, place, [] => place
  | 0, place, .closing :: _ => place
  | depth + 1, place, .closing :: rest => blockEnd depth (place + 1) rest
  | depth, place, .opening :: rest => blockEnd (depth + 1) (place + 1) rest
  | depth, place, _ :: rest => blockEnd depth (place + 1) rest

/-- What is wrong with a script: a place, and what is said of it, or a label that is missing. -/
inductive Problem where
  | at (place : Nat) (message : String)
  | noLabel (name : String)

def read (text : String) (isExtended : Bool) : Except Problem (Array Command) := do
  let cs := text.toList
  match (commands (cs.length + 1)).run { rest := cs, isExtended } with
  | .error (place, message) => .error (.at place message)
  | .ok (_, r) =>
    if !r.blocks.isEmpty then .error (.at 0 "unmatched `\x7b'")
    else
      let drafts := r.commands.reverse
      let labels := drafts.zipIdx.filterMap fun ((_, d), i) =>
        match d with
        | .label name => some (name, i)
        | _ => none
      let all := drafts.map (·.2)
      let settled ← drafts.zipIdx.mapM fun ((a, d), i) => do
        let action ← match d with
          | .plain x => .ok x
          | .label _ => .ok Action.nothing
          | .opening => .ok (Action.beginBlock (blockEnd 0 (i + 1) (all.drop (i + 1))))
          | .closing => .ok Action.endBlock
          | .jump make name =>
            if name == "" then .ok (make drafts.length)
            else
              match labels.lookup name with
              | some target => .ok (make target)
              | none => .error (Problem.noLabel name)
        return { addresses := a, action : Command }
      return settled.toArray

end Remedy.Tool.Editing
