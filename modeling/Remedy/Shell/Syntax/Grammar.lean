import Remedy.Shell.Syntax.Tokens

namespace Remedy.Shell.Grammar

open Tokens

def reservedNames : List String :=
  [".", ":", "break", "continue", "eval", "exec", "exit", "export", "readonly", "return", "set",
    "shift", "times", "trap", "unset"]

def demandKeyword (commands : Commands) (e : Expectation) (s : String) : Parser Unit := do
  let t ← next commands e
  unless t.isKeyword s do unexpected t (some ("\"" ++ s ++ "\""))

def assignment? (extended : Bool) (w : Word) : Option (String × Bool × Word) :=
  match w with
  | .literal text false :: rest =>
    let name := text.toList.takeWhile isNameChar
    let behind := text.toList.drop name.length
    let value (cs : List Char) : Word :=
      if cs.isEmpty then rest else .literal (String.ofList cs) false :: rest
    if !isName (String.ofList name) then none
    else
      match behind with
      | '=' :: cs => some (String.ofList name, false, value cs)
      | '+' :: '=' :: cs =>
        if extended then some (String.ofList name, true, value cs) else none
      | _ => none
  | _ => none

def elementAssignment? (w : Word) : Option Assignment :=
  match w with
  | .literal text false :: rest =>
    let name := text.toList.takeWhile isNameChar
    let behind := text.toList.drop name.length
    match behind with
    | '[' :: inside =>
      -- the index stands in one part as a rule; else it is put together of several
      let rec split : List Char → List Part → Option (Word × Bool × Word)
        | ']' :: '=' :: cs, rest =>
          some ([], false, if cs.isEmpty then rest else .literal (String.ofList cs) false :: rest)
        | ']' :: '+' :: '=' :: cs, rest =>
          some ([], true, if cs.isEmpty then rest else .literal (String.ofList cs) false :: rest)
        | c :: cs, rest => (split cs rest).map fun (i, append, value) =>
          match i with
          | .literal s q :: i => (.literal (String.singleton c ++ s) q :: i, append, value)
          | i => (.literal (String.singleton c) true :: i, append, value)
        | [], _ => none
      let rec behindIndex : List Part → Option (Word × Bool × Word)
        | .literal s false :: rest =>
          match split s.toList rest with
          | some found => some found
          | none => (behindIndex rest).map fun (i, a, v) => (.literal s true :: i, a, v)
        | p :: rest => (behindIndex rest).map fun (i, a, v) => (p :: i, a, v)
        | [] => none
      let first : Part := .literal (String.ofList inside) false
      (behindIndex (first :: rest)).map fun (i, append, value) =>
        .scalar (String.ofList name) i append value
    | _ => none
  | _ => none

def elements (commands : Commands) : Nat → List Assignment → Parser (List Assignment)
  | 0, found => return found.reverse
  | n + 1, found => do
    let t ← next commands { skipsLines := true }
    match t with
    | .word w =>
      match elementAssignment? w with
      | some (.scalar "" i a v) => elements commands n (.scalar "" i a v :: found)
      | _ => elements commands n (.scalar "" [] false w :: found)
    | .operator ")" => return found.reverse
    | _ => unexpected t none

def redirection (commands : Commands) (fd : Option Nat) (operator : String) :
    Parser Redirection := do
  let t ← next commands nothing
  match t with
  | .word w =>
    let file (fd' : Nat) (mode : FileMode) : Parser Redirection :=
      return .file (fd.getD fd') mode w
    let document (dropsTabs : Bool) : Parser Redirection := do
      let r ← get
      let isLiteral := w.any fun
        | .literal _ quoted => quoted
        | _ => false
      let delimiter := String.join (w.map fun
        | .literal s _ => s
        | _ => "")
      let a : Awaited := { number := r.nextDocument, delimiter, dropsTabs, isLiteral }
      set { r with nextDocument := r.nextDocument + 1, awaited := r.awaited ++ [a] }
      return .document (fd.getD 0) r.nextDocument
    match operator with
    | "<" => file 0 .read
    | ">" => file 1 .write
    | ">|" => file 1 .overwrite
    | ">>" => file 1 .append
    | "<>" => file 0 .readWrite
    | "<&" => return .duplicate (fd.getD 0) w
    | ">&" =>
      if (← Parser.isExtended) && fd.isNone then
        match plainText? w with
        | some s =>
          if s == "-" || s.toList.all fun c => c.isDigit || c == '-' then return .duplicate 1 w
          else return .both false w
        | none => return .duplicate 1 w
      else return .duplicate (fd.getD 1) w
    | "<<-" => document true
    | "<<<" => return .text (fd.getD 0) w
    | "&>" => return .both false w
    | "&>>" => return .both true w
    | _ => document false
  | _ => unexpected t none

/-- The parts of a simple command, each the last one first. -/
structure Gathering where
  assignments : List Assignment := []
  words : List Word := []
  redirections : List Redirection := []

def declares (words : List Word) : Bool :=
  match words.getLast?.bind plainText? with
  | some s => ["declare", "typeset", "local", "export", "readonly"].contains s
  | none => false

def arrayAssignment (commands : Commands) (name : String) (append : Bool) :
    Parser Assignment := do
  return .array name append (← elements commands ((← get).bound + 1) [])

def simple (commands : Commands) (line : Nat) : Nat → Gathering → Parser Command
  | 0, _ => Parser.fail "word unexpected"
  | n + 1, g => do
    let extended ← Parser.isExtended
    let isFirst := g.words.isEmpty
    let t ← next commands { aliases := isFirst }
    let finish : Parser Command := do
      push t
      return .simple line g.assignments.reverse g.words.reverse g.redirections.reverse
    match t with
    | .word w =>
      let mayAssign := isFirst || (extended && declares g.words)
      match (if mayAssign then assignment? extended w else none) with
      | some (name, append, value) =>
        let isArray := extended && value.isEmpty && (← Parser.peek) == some '('
        if isArray then
          Parser.skip 1
          let a ← arrayAssignment commands name append
          if isFirst then simple commands line n { g with assignments := a :: g.assignments }
          else
            simple commands line n { g with
              assignments := a :: g.assignments
              words := [.literal name true] :: g.words }
        else if isFirst then
          simple commands line n { g with
            assignments := .scalar name [] append value :: g.assignments }
        else simple commands line n { g with words := w :: g.words }
      | none =>
        let element := if isFirst && extended then elementAssignment? w else none
        match element with
        | some a => simple commands line n { g with assignments := a :: g.assignments }
        | none => simple commands line n { g with words := w :: g.words }
    | .redirection fd operator =>
      let r ← redirection commands fd operator
      simple commands line n { g with redirections := r :: g.redirections }
    | .operator "(" =>
      match g.words, g.assignments, g.redirections with
      | [w], [], [] =>
        let closing ← next commands nothing
        unless closing.isOperator ")" do unexpected closing (some "\")\"")
        let name := (plainText? w).getD ""
        let isFine := isName name || (extended && name != "")
        if !isFine || (!extended && reservedNames.contains name) then
          Parser.fail "Bad function name"
        else
          return .function (← get).line name (← commands .command)
      | _, _, _ => finish
    | _ => finish

def redirections (commands : Commands) : Nat → List Redirection → Parser (List Redirection)
  | 0, found => return found.reverse
  | n + 1, found => do
    let t ← next commands atCommand
    match t with
    | .redirection fd operator =>
      redirections commands n ((← redirection commands fd operator) :: found)
    | _ =>
      push t
      return found.reverse

def branchRest (commands : Commands) : Nat → Parser (Command × Command)
  | 0 => Parser.fail "\"elif\" unexpected"
  | n + 1 => do
    demandKeyword commands nothing "then"
    let yes ← commands .block
    let t ← next commands nothing
    if t.isKeyword "elif" then
      let test ← commands .block
      let (yes', no') ← branchRest commands n
      return (yes, .branch test yes' no')
    else if t.isKeyword "else" then return (yes, ← commands .block)
    else
      push t
      return (yes, .nothing)

def loopWords (commands : Commands) : Nat → List Word → Parser (List Word)
  | 0, found => return found.reverse
  | n + 1, found => do
    let t ← next commands nothing
    match t with
    | .word w => loopWords commands n (w :: found)
    | .newline | .operator ";" => return found.reverse
    | _ => unexpected t none

def patterns (commands : Commands) : Nat → List Word → Parser (List Word)
  | 0, found => return found.reverse
  | n + 1, found => do
    let t ← next commands nothing
    if t.isOperator "|" then
      let t ← next commands nothing
      let w := match t with
        | .word w => w
        | .keyword s => [.literal s false]
        | _ => []
      patterns commands n (w :: found)
    else if t.isOperator ")" then return found.reverse
    else unexpected t (some "\")\"")

def cases (commands : Commands) : Nat → List Case → Parser (List Case)
  | 0, found => return found.reverse
  | n + 1, found => do
    let t ← next commands { skipsLines := true, keywords := true }
    if t.isKeyword "esac" then return found.reverse
    else
      let t ← if t.isOperator "(" then next commands nothing else pure t
      let first : Word := match t with
        | .word w => w
        | .keyword s => [.literal s false]
        | _ => []
      let ps ← patterns commands n [first]
      let body ← commands .inner
      let t ← next commands { skipsLines := true, keywords := true }
      if t.isKeyword "esac" then return (Case.mk ps body false :: found).reverse
      else if t.isOperator ";;" then cases commands n (Case.mk ps body false :: found)
      else if t.isOperator ";&" then cases commands n (Case.mk ps body true :: found)
      else unexpected t (some "\";;\"")

/-- Reads the three expressions of a counting loop, whose parentheses have been opened. -/
def counting (commands : Commands) : Parser (Word × Word × Word) := do
  let token := next commands nothing
  let whole ← Words.parts commands token ((← get).bound + 1) (.arithmetic 0) {}
  let text (w : Word) : List Char := (String.join (w.map fun
    | .literal s _ => s
    | .parameter name _ _ _ => "$\x7b" ++ name ++ "\x7d"
    | _ => "")).toList
  let cut (cs : List Char) := (cs.takeWhile (· ≠ ';'), (cs.dropWhile (· ≠ ';')).drop 1)
  let (start, rest) := cut (text whole)
  let (test, next') := cut rest
  let line := (← get).line
  let again (cs : List Char) : Parser Word :=
    Words.within (String.ofList cs) line
      (Words.parts commands token (cs.length + 1) .document {})
  return (← again start, ← again test, ← again next')

def testOperators : List String :=
  ["=", "==", "!=", "=~", "-eq", "-ne", "-lt", "-le", "-gt", "-ge", "-nt", "-ot", "-ef"]

/-- A word of a pattern or an expression in a test, where parentheses do not end it. -/
def testOperand (commands : Commands) (isRegex : Bool) : Parser Word := do
  if !isRegex then
    let t ← next commands nothing
    match t with
    | .word w => return w
    | _ => unexpected t none
  else
    skipBlanks (← get).bound
    let token := next commands nothing
    let rec gather : Nat → Word → Parser Word
      | 0, w => return w
      | n + 1, w => do
        let more ← Words.parts commands token ((← get).bound + 1) .bare {}
        let w := w ++ more
        match (← get).rest with
        | c :: _ =>
          if c == '(' || c == ')' || c == '|' || c == '<' || c == '>' then
            Parser.skip 1
            gather n (w ++ [.literal (String.singleton c) false])
          else return w
        | [] => return w
    gather (← get).bound []

def tests (commands : Commands) : Nat → Parser Command
  | 0 => Parser.fail "unexpected end of tests"
  | n + 1 => do
    let primary : Parser Command := do
      let t ← next commands { skipsLines := true }
      match t with
      | .operator "(" =>
        let c ← tests commands n
        let closing ← next commands { skipsLines := true }
        unless closing.isOperator ")" do unexpected closing (some "\")\"")
        return c
      | .word w =>
        if isPlain w "!" then return .not (← tests commands n)
        else
          let isUnary := match plainText? w with
            | some s => s.length == 2 && s.startsWith "-"
            | none => false
          if isUnary then
            let operand ← next commands nothing
            match operand with
            | .word v =>
              if isPlain v "]]" then
                push operand
                return .test "-n" [w]
              else return .test ((plainText? w).getD "") [v]
            | _ =>
              push operand
              return .test "-n" [w]
          else
            let t ← next commands nothing
            match t with
            | .word o =>
              match plainText? o with
              | some s =>
                if testOperators.contains s then
                  return .test s [w, ← testOperand commands (s == "=~")]
                else
                  push t
                  return .test "-n" [w]
              | none =>
                push t
                return .test "-n" [w]
            | .redirection _ o =>
              if o == "<" || o == ">" then return .test o [w, ← testOperand commands false]
              else unexpected t none
            | _ =>
              push t
              return .test "-n" [w]
      | _ => unexpected t none
    let a ← primary
    let t ← next commands { skipsLines := true }
    match t with
    | .operator "&&" => return .and a (← tests commands n)
    | .operator "||" => return .or a (← tests commands n)
    | _ =>
      push t
      return a

def eachRest (commands : Commands) (line : Nat) (name : String) : Parser Command := do
  let bound := (← get).bound + 1
  let t ← next commands atCommandBelow
  let (hasWords, words) ←
    if t.isKeyword "in" then pure (true, ← loopWords commands bound [])
    else
      unless t.isOperator ";" do push t
      pure (false, [])
  let t ← next commands atCommandBelow
  let body ←
    if t.isKeyword "\x7b" && (← Parser.isExtended) then do
      let body ← commands .block
      demandKeyword commands nothing "\x7d"
      pure body
    else do
      unless t.isKeyword "do" do unexpected t (some "\"do\"")
      let body ← commands .block
      demandKeyword commands nothing "done"
      pure body
  return .each line name hasWords words body

def command (commands : Commands) (e : Expectation) : Parser Command := do
  let line := (← get).line
  let bound := (← get).bound + 1
  let extended ← Parser.isExtended
  let t ← next commands e
  let redirected (c : Command) : Parser Command := do
    match ← redirections commands bound [] with
    | [] => return c
    | rs =>
      match c with
      | .subshell line body _ => return .subshell line body rs
      | c => return .redirected line c rs
  match t with
  | .keyword "if" =>
    let test ← commands .block
    let (yes, no) ← branchRest commands bound
    demandKeyword commands nothing "fi"
    redirected (.branch test yes no)
  | .keyword "while" | .keyword "until" =>
    let test ← commands .block
    demandKeyword commands nothing "do"
    let body ← commands .block
    demandKeyword commands nothing "done"
    redirected (.loop (t.isKeyword "until") test body)
  | .keyword "for" =>
    let t ← next commands nothing
    match t with
    | .word w =>
      match plainText? w with
      | some name =>
        if isName name then redirected (← eachRest commands line name)
        else Parser.fail "Bad for loop variable"
      | none => Parser.fail "Bad for loop variable"
    | .operator "(" =>
      if extended && (← Parser.peek) == some '(' then
        Parser.skip 1
        let (start, test, next') ← counting commands
        let t ← next commands atCommandBelow
        let t ← if t.isOperator ";" then next commands atCommandBelow else pure t
        unless t.isKeyword "do" do unexpected t (some "\"do\"")
        let body ← commands .block
        demandKeyword commands nothing "done"
        redirected (.count line start test next' body)
      else Parser.fail "Bad for loop variable"
    | _ => Parser.fail "Bad for loop variable"
  | .keyword "case" =>
    let t ← next commands nothing
    match t with
    | .word subject =>
      demandKeyword commands { skipsLines := true, keywords := true } "in"
      let cs ← cases commands bound []
      redirected (.choice line subject cs)
    | _ => unexpected t (some "word")
  | .operator "(" =>
    if extended && (← Parser.peek) == some '(' then
      Parser.skip 1
      let token := next commands nothing
      let e ← Words.parts commands token bound (.arithmetic 0) {}
      redirected (.arithmetic line e)
    else
      let body ← commands .block
      let t ← next commands nothing
      unless t.isOperator ")" do unexpected t (some "\")\"")
      redirected (.subshell line body [])
  | .keyword "\x7b" =>
    let body ← commands .block
    demandKeyword commands nothing "\x7d"
    redirected (.group body)
  | .keyword "[[" =>
    let c ← tests commands bound
    let t ← next commands nothing
    match t with
    | .word w =>
      unless isPlain w "]]" do unexpected t (some "\"]]\"")
      redirected (.condition line c)
    | _ => unexpected t (some "\"]]\"")
  | .keyword "function" =>
    let t ← next commands nothing
    match t with
    | .word w =>
      let name := (plainText? w).getD ""
      let t ← next commands nothing
      if t.isOperator "(" then
        let closing ← next commands nothing
        unless closing.isOperator ")" do unexpected closing (some "\")\"")
      else push t
      return .function (← get).line name (← commands .command)
    | _ => unexpected t none
  | .word _ | .redirection .. =>
    push t
    simple commands (← get).line bound {}
  | _ => unexpected t none

def pipelineRest (commands : Commands) : Nat → List Command → Parser (List Command)
  | 0, found => return found.reverse
  | n + 1, found => do
    let t ← next commands nothing
    if t.isOperator "|" then
      pipelineRest commands n ((← commands .command) :: found)
    else if t.isOperator "|&" then
      let first := match found with
        | c :: rest => .redirected 0 c [.duplicate 2 [.literal "1" false]] :: rest
        | [] => []
      pipelineRest commands n ((← commands .command) :: first)
    else
      push t
      return found.reverse

def pipeline (commands : Commands) (e : Expectation) : Parser Command := do
  let t ← next commands e
  let isNegated := t.isKeyword "!"
  let hasMark := isNegated || t.isKeyword "time"
  unless hasMark do push t
  let first ← command commands (if hasMark then atCommand else nothing)
  let c ← match ← pipelineRest commands ((← get).bound + 1) [first] with
    | [c] => pure c
    | cs => pure (.pipeline cs)
  return if isNegated then .not c else c

def andOrRest (commands : Commands) : Nat → Command → Parser Command
  | 0, a => return a
  | n + 1, a => do
    let t ← next commands nothing
    if t.isOperator "&&" then
      andOrRest commands n (.and a (← pipeline commands atCommandBelow))
    else if t.isOperator "||" then
      andOrRest commands n (.or a (← pipeline commands atCommandBelow))
    else
      push t
      return a

def andOr (commands : Commands) : Parser Command := do
  andOrRest commands ((← get).bound + 1) (← pipeline commands nothing)

def after (before : Option Command) (c : Command) : Command :=
  match before with
  | none => c
  | some b => .sequence b c

/-- Reads commands one after another; `before` is what has been read. -/
def list (commands : Commands) (goal : Goal) : Nat → Bool → Option Command → Parser Command
  | 0, _, before => return before.getD .nothing
  | n + 1, mayEnd, before => do
    let isLine := goal == .line
    let t ← next commands { skipsLines := !isLine, keywords := true, aliases := true }
    match t with
    | .newline => return before.getD .nothing
    | .finish =>
      push t
      return before.getD .nothing
    | _ =>
      push t
      if mayEnd && t.endsList then return before.getD .nothing
      let c ← andOr commands
      let t ← next commands nothing
      let c := if t.isOperator "&" then .background c else c
      let before := after before c
      match t with
      | .finish =>
        push t
        return before
      | .newline =>
        -- the end of the line ends a line of commands, and the texts behind it have been read
        if isLine then return before else list commands goal n true before
      | .operator "&" | .operator ";" => list commands goal n (!isLine) before
      | _ =>
        if isLine then unexpected t none
        push t
        return before

def commands : Nat → Commands
  | 0, _ => Parser.fail "too many commands in one another"
  | n + 1, goal =>
    match goal with
    | .command => command (commands n) atCommandBelow
    | .line => do list (commands n) .line ((← get).bound + 1) false none
    | .block => do list (commands n) .block ((← get).bound + 1) false none
    | .inner => do list (commands n) .inner ((← get).bound + 1) true none

def text? (r : Reading) : Option Word :=
  let reader := commands (r.bound + 1)
  match (Words.parts reader (next reader nothing) (r.bound + 1) .document {}).run r with
  | .ok (w, _) => some w
  | .error _ => none

def isAtEnd (r : Reading) : Bool :=
  match r.pushed with
  | some .finish => true
  | _ => r.pushed.isNone && r.rest.isEmpty

def next? (r : Reading) : Except SyntaxError (Command × Reading) :=
  let r := { r with pushed := none, awaited := [] }
  (commands (r.bound + 1) .line).run r

end Remedy.Shell.Grammar
