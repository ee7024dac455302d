import Remedy.Shell.Syntax.Reading

namespace Remedy.Shell

inductive Goal where
  | line
  /-- Commands as far as a token that ends a list; blank lines may stand in front of it. -/
  | block
  | inner
  | command
deriving DecidableEq, Repr

abbrev Commands := Goal → Parser Command

namespace Words

inductive Place where
  | bare
  | quoted
  | braced (quoted : Bool)
  | arithmetic (depth : Nat)
  | document
  | index (depth : Nat)
deriving DecidableEq, Repr

def Place.isQuoted : Place → Bool
  | .bare | .braced false => false
  | _ => true

def endsWord (c : Char) : Bool := " \t\n&|;()<>".toList.contains c

def isSpecial (c : Char) : Bool := "@*#?$!-".toList.contains c

/-- The text between backquotes, where a backslash quotes itself, a backquote, a dollar sign and,
between double quotes, a double quote. -/
def backquoted (quoted : Bool) : Nat → List Char → Parser String
  | 0, _ => Parser.fail "EOF in backquote substitution"
  | n + 1, taken => do
    match (← get).rest with
    | [] => Parser.fail "EOF in backquote substitution"
    | '`' :: _ =>
      Parser.skip 1
      return String.ofList taken.reverse
    | '\\' :: '\n' :: _ =>
      Parser.skip 2
      Parser.newLine
      backquoted quoted n taken
    | '\\' :: c :: _ =>
      Parser.skip 2
      if c == '\\' || c == '`' || c == '$' || (quoted && c == '"') then
        backquoted quoted n (c :: taken)
      else
        if c == '\n' then Parser.newLine
        backquoted quoted n (c :: '\\' :: taken)
    | c :: _ =>
      Parser.skip 1
      if c == '\n' then Parser.newLine
      backquoted quoted n (c :: taken)

def within (text : String) (line : Nat) (parser : Parser α) : Parser α := do
  let outer ← get
  let cs := text.toList
  set { outer with rest := cs, line, pushed := none, awaited := [], bound := cs.length + 1 }
  let a ← parser
  modify fun inner => { outer with
    documents := inner.documents, nextDocument := inner.nextDocument }
  return a

def parenthesised (commands : Commands) (token : Parser Token) : Parser Command := do
  let outer ← get
  set { outer with pushed := none, awaited := [] }
  let body ← commands .inner
  let t ← token
  unless t.isOperator ")" do
    Parser.fail (t.describe ++ " unexpected (expecting \")\")")
  modify fun inner => { inner with pushed := none, awaited := outer.awaited }
  return body

def numeral (base : Nat) (digits : List Char) : Nat :=
  digits.foldl (fun n c =>
    base * n + (if c.isDigit then c.toNat - 48 else c.toLower.toNat - 87)) 0

def isOctal (c : Char) : Bool := '0' ≤ c && c ≤ '7'

def isHexadecimal (c : Char) : Bool :=
  c.isDigit || ('a' ≤ c && c ≤ 'f') || ('A' ≤ c && c ≤ 'F')

def unescape : Nat → List Char → List Char
  | 0, cs => cs
  | _, [] => []
  | n + 1, '\\' :: c :: rest =>
    match c with
    | 'n' => '\n' :: unescape n rest
    | 't' => '\t' :: unescape n rest
    | 'r' => '\r' :: unescape n rest
    | 'a' => '\x07' :: unescape n rest
    | 'b' => '\x08' :: unescape n rest
    | 'f' => '\x0c' :: unescape n rest
    | 'v' => '\x0b' :: unescape n rest
    | 'e' | 'E' => '\x1b' :: unescape n rest
    | '\\' | '\'' | '"' | '?' => c :: unescape n rest
    | 'x' =>
      let digits := (rest.take 2).takeWhile isHexadecimal
      if digits.isEmpty then '\\' :: 'x' :: unescape n rest
      else Char.ofNat (numeral 16 digits) :: unescape n (rest.drop digits.length)
    | _ =>
      if isOctal c then
        let digits := ((c :: rest).take 3).takeWhile isOctal
        Char.ofNat (numeral 8 digits % 256) :: unescape n ((c :: rest).drop digits.length)
      else '\\' :: c :: unescape n rest
  | n + 1, c :: rest => c :: unescape n rest

/-- The text of a quotation after a dollar sign, with its escapes still in it. -/
def dollarQuoted : Nat → List Char → Parser String
  | 0, _ => Parser.fail "Unterminated quoted string"
  | n + 1, taken => do
    match (← get).rest with
    | [] => Parser.fail "Unterminated quoted string"
    | '\\' :: c :: _ =>
      Parser.skip 2
      dollarQuoted n (c :: '\\' :: taken)
    | '\'' :: _ =>
      Parser.skip 1
      return String.ofList taken.reverse
    | c :: _ =>
      Parser.skip 1
      if c == '\n' then Parser.newLine
      dollarQuoted n (c :: taken)

abbrev Parts := Place → Gathered → Parser (List Part)

def replacement (parts : List Part) : List Part × List Part :=
  let rec cut : List Part → List Part × List Part
    | [] => ([], [])
    | .literal text false :: rest =>
      if text.toList.contains '/' then
        let before := text.toList.takeWhile (· ≠ '/')
        let after := text.toList.drop (before.length + 1)
        let part (cs : List Char) : List Part :=
          if cs.isEmpty then [] else [.literal (String.ofList cs) false]
        (part before, part after ++ rest)
      else
        let (a, b) := cut rest
        (.literal text false :: a, b)
    | p :: rest =>
      let (a, b) := cut rest
      (p :: a, b)
  cut parts

/-- Cuts the parts of a slice at the first colon that stands in the open. -/
def sliced (parts : List Part) : List Part × Option (List Part) :=
  let rec cut : List Part → List Part × Option (List Part)
    | [] => ([], none)
    | .literal text quoted :: rest =>
      if text.toList.contains ':' then
        let before := text.toList.takeWhile (· ≠ ':')
        let after := text.toList.drop (before.length + 1)
        ([.literal (String.ofList before) quoted],
          some (.literal (String.ofList after) quoted :: rest))
      else
        let (a, b) := cut rest
        (.literal text quoted :: a, b)
    | p :: rest =>
      let (a, b) := cut rest
      (p :: a, b)
  cut parts

def extendedUse? (parts : Parts) (quoted : Bool) : Parser (Option Use) := do
  let word (n : Nat) : Parser (List Part) := do
    Parser.skip n
    parts (.braced quoted) {}
  let pattern (n : Nat) : Parser (List Part) := do
    Parser.skip n
    parts (.braced false) {}
  match (← get).rest with
  | '^' :: '^' :: _ =>
    let _ ← word 2
    return some (.changeCase .upperAll)
  | '^' :: _ =>
    let _ ← word 1
    return some (.changeCase .upperFirst)
  | ',' :: ',' :: _ =>
    let _ ← word 2
    return some (.changeCase .lowerAll)
  | ',' :: _ =>
    let _ ← word 1
    return some (.changeCase .lowerFirst)
  | '/' :: '/' :: _ =>
    let (p, r) := replacement (← pattern 2)
    return some (.replace .all p r)
  | '/' :: '#' :: _ =>
    let (p, r) := replacement (← pattern 2)
    return some (.replace .atStart p r)
  | '/' :: '%' :: _ =>
    let (p, r) := replacement (← pattern 2)
    return some (.replace .atEnd p r)
  | '/' :: _ =>
    let (p, r) := replacement (← pattern 1)
    return some (.replace .first p r)
  | '@' :: 'Q' :: '}' :: _ =>
    Parser.skip 3
    return some .quotedForm
  | ':' :: c :: _ =>
    if "-+?=".toList.contains c then return none
    else
      match sliced (← word 1) with
      | (offset, some length) => return some (.slice offset length true)
      | (offset, none) => return some (.slice offset [] false)
  | _ => return none

def use (parts : Parts) (quoted : Bool) : Parser Use := do
  let word : Parser (List Part) := do
    Parser.skip 1
    parts (.braced quoted) {}
  let pattern (atEnd : Bool) (c : Char) : Parser Use := do
    Parser.skip 1
    if (← Parser.peek) == some c then
      Parser.skip 1
      return .cut atEnd true (← parts (.braced false) {})
    else return .cut atEnd false (← parts (.braced false) {})
  let bad : Parser Use := do
    let rest ← parts (.braced quoted) {}
    return .bad (match plainText? rest with
      | some s => s
      | none => "")
  if ← Parser.isExtended then
    if let some u ← extendedUse? parts quoted then return u
  match (← get).rest with
  | '}' :: _ =>
    Parser.skip 1
    return .value
  | ':' :: rest =>
    Parser.skip 1
    match rest with
    | '-' :: _ => return .ifUnset true (← word)
    | '=' :: _ => return .assign true (← word)
    | '?' :: _ => return .demand true (← word)
    | '+' :: _ => return .ifSet true (← word)
    | _ =>
      Parser.skip 1
      bad
  | '-' :: _ => return .ifUnset false (← word)
  | '=' :: _ => return .assign false (← word)
  | '?' :: _ => return .demand false (← word)
  | '+' :: _ => return .ifSet false (← word)
  | '#' :: _ => pattern false '#'
  | '%' :: _ => pattern true '%'
  | [] => bad
  | _ :: _ =>
    Parser.skip 1
    bad

def index (parts : Parts) : Parser (List Part) := do
  if !(← Parser.isExtended) then return []
  match (← get).rest with
  | '[' :: _ =>
    Parser.skip 1
    parts (.index 0) {}
  | _ => return []

def bracedParameter (parts : Parts) (quoted : Bool) : Parser Part := do
  let named (name : String) : Parser Part := do
    let i ← index parts
    return .parameter name i (← use parts quoted) quoted
  let name : Parser String := Parser.takeWhile isNameChar
  let bad : Parser Part := do
    let _ ← parts (.braced quoted) {}
    return .parameter "" [] (.bad "") quoted
  match (← get).rest with
  | '#' :: c :: rest =>
    if isNameChar c then
      Parser.skip 1
      let n ← if c.isDigit then Parser.takeWhile Char.isDigit else name
      let i ← index parts
      if (← Parser.peek) == some '}' then
        Parser.skip 1
        return .parameter n i .length quoted
      else bad
    else if c != '}' && rest.head? == some '}' then
      Parser.skip 3
      if isSpecial c then return .parameter (String.singleton c) [] .length quoted
      else return .parameter "" [] (.bad "") quoted
    else
      Parser.skip 1
      named "#"
  | '!' :: c :: _ =>
    if (← Parser.isExtended) && isNameStart c then
      Parser.skip 1
      let n ← name
      match (← get).rest with
      | '}' :: _ =>
        Parser.skip 1
        return .parameter n [] .indirect quoted
      | '*' :: '}' :: _ | '@' :: '}' :: _ =>
        Parser.skip 2
        return .parameter n [] .names quoted
      | '[' :: '@' :: ']' :: '}' :: _ | '[' :: '*' :: ']' :: '}' :: _ =>
        Parser.skip 4
        return .parameter n [] .indices quoted
      | _ => bad
    else
      Parser.skip 1
      named "!"
  | c :: _ =>
    if isNameStart c then named (← name)
    else if c.isDigit then named (← Parser.takeWhile Char.isDigit)
    else if isSpecial c then
      Parser.skip 1
      named (String.singleton c)
    else
      unless c == '}' do Parser.skip 1
      bad
  | [] => bad

/-- What a dollar sign begins; it stands for itself where it begins nothing. -/
def dollar (commands : Commands) (token : Parser Token) (parts : Parts) (place : Place)
    (g : Gathered) : Parser Gathered := do
  let quoted := place.isQuoted
  match (← get).rest with
  | '(' :: '(' :: _ =>
    Parser.skip 2
    let e ← parts (.arithmetic 0) {}
    return g.addPart (.arithmetic e quoted)
  | '(' :: _ =>
    Parser.skip 1
    let body ← parenthesised commands token
    return g.addPart (.substitution body quoted)
  | '{' :: _ =>
    Parser.skip 1
    return g.addPart (← bracedParameter parts quoted)
  | '\'' :: _ =>
    if place == .bare && (← Parser.isExtended) then
      Parser.skip 1
      let text ← dollarQuoted (← get).bound []
      return g.addText (String.ofList (unescape text.length text.toList)) true
    else return g.addChar '$' quoted
  | '"' :: _ =>
    if place == .bare && (← Parser.isExtended) then return g
    else return g.addChar '$' quoted
  | c :: _ =>
    if isNameStart c then
      let name ← Parser.takeWhile isNameChar
      return g.addPart (.parameter name [] .value quoted)
    else if c.isDigit || isSpecial c then
      Parser.skip 1
      return g.addPart (.parameter (String.singleton c) [] .value quoted)
    else return g.addChar '$' quoted
  | [] => return g.addChar '$' quoted

def unfinished : Place → String
  | .bare | .document => ""
  | .quoted | .braced true => "Unterminated quoted string"
  | .braced false => "Missing '\x7d'"
  | .arithmetic _ => "Missing '))'"
  | .index _ => "Missing ']'"

/-- Whether a backslash in front of the character takes its meaning away. -/
def isEscaped (place : Place) (c : Char) : Bool :=
  match place with
  | .bare | .braced false => true
  | .quoted => "$`\"\\".toList.contains c
  | .braced true => "$`\"\\\x7d".toList.contains c
  | .document | .arithmetic _ | .index _ => "$`\\".toList.contains c

/-- Whether a quotation holds nothing but a list of parameters, which may be no field at all. -/
def isList : List Part → Bool
  | [.parameter "@" [] .value true] => true
  | [.parameter _ [.literal "@" _] .value true] => true
  | _ => false

def addQuoted (g : Gathered) (inner : List Part) : Gathered :=
  if isList inner then g.addParts inner else (g.addText "" true).addParts inner

def parts (commands : Commands) (token : Parser Token) : Nat → Parts
  | 0, _, _ => Parser.fail "Unterminated quoted string"
  | n + 1, place, g => do
    let again (g : Gathered) : Parser (List Part) := parts commands token n place g
    let self : Parts := parts commands token n
    let quoted := place.isQuoted
    match (← get).rest with
    | [] =>
      match place with
      | .bare | .document => return g.word
      | _ => Parser.fail (unfinished place)
    | '\\' :: '\n' :: _ =>
      Parser.skip 2
      Parser.newLine
      again g
    | '\\' :: c :: _ =>
      if isEscaped place c then
        Parser.skip 2
        again (g.addChar c true)
      else
        Parser.skip 1
        again (g.addChar '\\' quoted)
    | '$' :: _ =>
      Parser.skip 1
      again (← dollar commands token self place g)
    | '`' :: _ =>
      Parser.skip 1
      let text ← backquoted quoted (← get).bound []
      let body ← within text 1 (commands .inner)
      again (g.addPart (.substitution body quoted))
    | c :: rest =>
      if c == '\n' && place != .bare then Parser.newLine
      match place with
      | .bare =>
        if endsWord c then
          if (c == '<' || c == '>') && rest.head? == some '(' && (← Parser.isExtended) then
            Parser.skip 2
            let body ← parenthesised commands token
            again (g.addPart (.process (c == '<') body))
          else return g.word
        else if c == '\'' then
          Parser.skip 1
          match ← Parser.takeThrough '\'' with
          | some text => again (g.addText text true)
          | none => Parser.fail "Unterminated quoted string"
        else if c == '"' then
          Parser.skip 1
          let inner ← self .quoted {}
          again (addQuoted g inner)
        else
          Parser.skip 1
          again (g.addChar c false)
      | .braced false =>
        Parser.skip 1
        if c == '}' then return g.word
        else if c == '\'' then
          match ← Parser.takeThrough '\'' with
          | some text => again (g.addText text true)
          | none => Parser.fail "Unterminated quoted string"
        else if c == '"' then
          let inner ← self .quoted {}
          again (addQuoted g inner)
        else again (g.addChar c false)
      | .braced true =>
        Parser.skip 1
        if c == '}' then return g.word
        else if c == '"' then again (g.addText "" true)
        else again (g.addChar c true)
      | .quoted =>
        Parser.skip 1
        if c == '"' then return g.word else again (g.addChar c true)
      | .document =>
        Parser.skip 1
        again (g.addChar c true)
      | .arithmetic depth =>
        Parser.skip 1
        if c == '(' then self (.arithmetic (depth + 1)) (g.addChar c true)
        else if c == ')' then
          match depth with
          | depth + 1 => self (.arithmetic depth) (g.addChar c true)
          | 0 =>
            if rest.head? == some ')' then
              Parser.skip 1
              return g.word
            else again (g.addChar c true)
        else if (c == '"' || c == '\'') && (← Parser.isExtended) then again g
        else again (g.addChar c true)
      | .index depth =>
        Parser.skip 1
        if c == '[' then self (.index (depth + 1)) (g.addChar c true)
        else if c == ']' then
          match depth with
          | depth + 1 => self (.index depth) (g.addChar c true)
          | 0 => return g.word
        else if c == '"' then again g
        else again (g.addChar c true)

end Words

end Remedy.Shell
