import Remedy.Text.Escape
import Remedy.Tool.Records.Script

namespace Remedy.Tool.Records

inductive Token where
  | number (x : Float) (written : String)
  | text (s : String)
  | regex (s : String)
  | name (s : String)
  | called (s : String)
  | word (s : String)
  | mark (s : String)
  | lineEnd
  | statementEnd
  | finish
  | stray (c : Char)
  | endless (message : String)
deriving Inhabited, BEq

namespace Token

def keywords : List String :=
  ["BEGIN", "END", "break", "continue", "delete", "do", "else", "exit", "for", "function",
    "getline", "if", "in", "next", "nextfile", "print", "printf", "return", "while"]

def shown : Token → String
  | .number _ s | .text s | .name s | .called s | .word s | .mark s => s
  | .regex s => "/" ++ s ++ "/"
  | .lineEnd => "end of line"
  | .statementEnd => "\x7d"
  | .finish => "end of file"
  | .stray c => String.singleton c
  | .endless s => s

def isOperand : Token → Bool
  | .number .. | .text _ | .regex _ | .name _ => true
  | .word s => s == "getline" || s == "length"
  | .mark s => s == ")" || s == "]" || s == "++" || s == "--"
  | _ => false

def endsStatement : Token → Bool
  | .lineEnd | .statementEnd => true
  | .mark s => s == ";"
  | _ => false

end Token

/-- Replaces the escapes of a text; those that are none stay. -/
def unescaped : Nat → List Char → List Char
  | 0, cs => cs
  | _, [] => []
  | n + 1, '\\' :: c :: rest =>
    let digits (base count : Nat) (isDigit : Char → Bool) (cs : List Char) : List Char :=
      let ds := (cs.take count).takeWhile isDigit
      Char.ofNat (Text.Escape.value base ds % 256) :: unescaped n (cs.drop ds.length)
    match c with
    | '"' => '"' :: unescaped n rest
    | '\\' => '\\' :: unescaped n rest
    | '/' => '\\' :: '/' :: unescaped n rest
    | 'a' => '\x07' :: unescaped n rest
    | 'b' => '\x08' :: unescaped n rest
    | 'f' => '\x0c' :: unescaped n rest
    | 'n' => '\n' :: unescaped n rest
    | 'r' => '\r' :: unescaped n rest
    | 't' => '\t' :: unescaped n rest
    | 'v' => '\x0b' :: unescaped n rest
    | '\n' => unescaped n rest
    | 'x' =>
      if rest.head?.any Text.Escape.isHexadecimal then
        digits 16 2 Text.Escape.isHexadecimal rest
      else '\\' :: 'x' :: unescaped n rest
    | c =>
      if Text.Escape.isOctal c then digits 8 3 Text.Escape.isOctal (c :: rest)
      else '\\' :: c :: unescaped n rest
  | n + 1, c :: rest => c :: unescaped n rest

def withoutEscapes (s : String) : String :=
  String.ofList (unescaped (s.length + 1) s.toList)

/-- A text up to its closing quote, and what follows; `none` if there is no such quote. -/
def quoted? : List Char → List Char → Option (List Char × List Char)
  | '"' :: rest, done => some (done.reverse, rest)
  | '\\' :: c :: rest, done => quoted? rest (c :: '\\' :: done)
  | '\n' :: _, _ => none
  | c :: rest, done => quoted? rest (c :: done)
  | [], _ => none

/-- An expression up to its closing slash, which does not stand inside brackets. -/
def regexText? : Nat → Bool → List Char → List Char → Option (List Char × List Char)
  | 0, _, _, _ => none
  | n + 1, inBrackets, cs, done =>
    match cs with
    | [] | '\n' :: _ => none
    | '\\' :: '/' :: rest => regexText? n inBrackets rest ('/' :: done)
    | '\\' :: c :: rest => regexText? n inBrackets rest (c :: '\\' :: done)
    | '[' :: '^' :: ']' :: rest =>
      if inBrackets then regexText? n true ('^' :: ']' :: rest) ('[' :: done)
      else regexText? n true rest (']' :: '^' :: '[' :: done)
    | '[' :: ']' :: rest =>
      if inBrackets then regexText? n true (']' :: rest) ('[' :: done)
      else regexText? n true rest (']' :: '[' :: done)
    | '[' :: ':' :: rest =>
      if inBrackets then
        -- the name of a class ends with a bracket of its own
        let name := rest.takeWhile Char.isAlpha
        match rest.drop name.length with
        | ':' :: ']' :: rest =>
          regexText? n true rest (']' :: ':' :: name.reverse ++ ':' :: '[' :: done)
        | _ => regexText? n true (':' :: rest) ('[' :: done)
      else regexText? n true (':' :: rest) ('[' :: done)
    | '[' :: rest => regexText? n true rest ('[' :: done)
    | ']' :: rest => regexText? n false rest (']' :: done)
    | '/' :: rest =>
      if inBrackets then regexText? n true rest ('/' :: done) else some (done.reverse, rest)
    | c :: rest => regexText? n inBrackets rest (c :: done)

def numberText? (cs : List Char) : Option (List Char) :=
  let whole := cs.takeWhile Char.isDigit
  let rest := cs.drop whole.length
  let fraction : List Char := match rest with
    | '.' :: rest => '.' :: rest.takeWhile Char.isDigit
    | _ => []
  if whole.isEmpty && fraction.length ≤ 1 then none
  else
    let rest := rest.drop fraction.length
    let exponent : List Char := match rest with
      | e :: rest =>
        if e == 'e' || e == 'E' then
          let sign := (rest.take 1).filter fun c => c == '+' || c == '-'
          let ds := (rest.drop sign.length).takeWhile Char.isDigit
          if ds.isEmpty then [] else e :: sign ++ ds
        else []
      | [] => []
    some (whole ++ fraction ++ exponent)

/-- Passes over blanks, comments and lines; tells how many lines those were. -/
def skipLines : Nat → List Char → Nat → List Char × Nat
  | 0, cs, n => (cs, n)
  | fuel + 1, cs, n =>
    match cs with
    | '\n' :: rest => skipLines fuel rest (n + 1)
    | '\\' :: '\n' :: rest => skipLines fuel rest (n + 1)
    | '#' :: rest => skipLines fuel (rest.dropWhile (· != '\n')) n
    | c :: rest => if isBlank c then skipLines fuel rest n else (cs, n)
    | [] => ([], n)

/-- Signs of three and of two characters, which come before shorter ones. -/
def longMarks : List (List Char) :=
  ["++", "--", "+=", "-=", "*=", "/=", "%=", "^=", "==", "!=", "!~", "<=", ">=", ">>", "&&",
    "||"].map String.toList

def shortMarks : List Char := "\x7b\x7d()[];,+-*/%^!<>|?:~$=".toList

def goesOn : Token → Bool
  | .mark s => ["\x7b", ";", ",", "&&", "||"].contains s
  | .word s => s == "do" || s == "else"
  | .lineEnd => true
  | _ => false

structure Scanner where
  rest : List Char
  line : Nat := 1
  previous : Token := .lineEnd
  braces : Nat := 0
  parentheses : Nat := 0
  found : List (Token × Nat) := []
  /-- What closes nothing: before which token, the line and what is said. -/
  faults : List (Nat × Nat × String) := []

namespace Scanner

def fault (s : Scanner) (message : String) : Scanner :=
  { s with faults := (s.found.length, s.line, message) :: s.faults }

def add (s : Scanner) (t : Token) (rest : List Char) : Scanner :=
  let s := { s with rest, previous := t, found := (t, s.line) :: s.found }
  if goesOn t then
    let (rest, n) := skipLines (rest.length + 1) rest 0
    { s with rest, line := s.line + n }
  else s

def close (s : Scanner) (rest : List Char) : Scanner :=
  if s.braces = 0 then { s.fault "extra '\x7d'" with rest }
  else if !s.previous.endsStatement && s.previous != .mark "\x7d" then s.add .statementEnd s.rest
  else
    let s := { s.add (.mark "\x7d") rest with braces := s.braces - 1 }
    let rest := if s.braces = 0 then
        match rest.dropWhile fun c => isBlank c && c != '\n' with
        | ';' :: rest => rest
        | _ => rest
      else rest
    let (rest, n) := skipLines (rest.length + 1) rest 0
    { s with rest, line := s.line + n }

def marked (s : Scanner) : Scanner :=
  match longMarks.find? (·.isPrefixOf s.rest) with
  | some m => s.add (.mark (String.ofList m)) (s.rest.drop m.length)
  | none =>
    match s.rest with
    | [] => s
    | c :: rest =>
      if !shortMarks.contains c then s.add (.stray c) rest
      else if c == ')' && s.parentheses = 0 then { s.fault "extra ')'" with rest }
      else
        let s := s.add (.mark (String.singleton c)) rest
        match c with
        | '\x7b' => { s with braces := s.braces + 1 }
        | '(' => { s with parentheses := s.parentheses + 1 }
        | ')' => { s with parentheses := s.parentheses - 1 }
        | _ => s

def step (s : Scanner) : Scanner :=
  match s.rest with
  | [] => s
  | '\n' :: rest =>
    let s := s.add .lineEnd rest
    { s with line := s.line + 1 }
  | '\\' :: '\n' :: rest => { s with rest, line := s.line + 1 }
  | '#' :: rest => { s with rest := rest.dropWhile (· != '\n') }
  | '"' :: rest =>
    match quoted? rest [] with
    | some (cs, after) =>
      let lines := cs.countP (· == '\n')
      let s := s.add (.text (String.ofList (unescaped (cs.length + 1) cs))) after
      { s with line := s.line + lines }
    | none =>
      let start := rest.takeWhile (· != '\n')
      { s.add (.endless ("runaway string constant \"" ++ String.ofList (start.take 10) ++ " ..."))
          [] with rest := [] }
  | '\x7d' :: rest => s.close rest
  | '/' :: rest =>
    if s.previous.isOperand then s.marked
    else
      match regexText? (rest.length + 1) false rest [] with
      | some (cs, after) => s.add (.regex (String.ofList cs)) after
      | none =>
        let start := rest.takeWhile (· != '\n')
        { s.add (.endless ("runaway regular expression /" ++ String.ofList (start.take 10) ++
            " ...")) [] with rest := [] }
  | c :: rest =>
    if isBlank c then { s with rest }
    else
      match numberText? s.rest with
      | some cs =>
        let written := String.ofList cs
        s.add (.number (numberIn written) written) (s.rest.drop cs.length)
      | none =>
        if c.isAlpha || c == '_' then
          let cs := s.rest.takeWhile fun c => c.isAlphanum || c == '_'
          let after := s.rest.drop cs.length
          let word := String.ofList cs
          if Token.keywords.contains word || Builtin.table.any (·.1 == word) then
            s.add (.word word) after
          else if after.head? == some '(' then s.add (.called word) after
          else s.add (.name word) after
        else s.marked

def run : Nat → Scanner → Scanner
  | 0, s => s
  | n + 1, s => if s.rest.isEmpty then s else run n s.step

end Scanner

def tokens (script : String) : Array (Token × Nat) × List (Nat × Nat × String) :=
  let cs := script.toList ++ ['\n']
  let (rest, n) := skipLines (cs.length + 1) cs 0
  let s := Scanner.run (2 * cs.length + 2) { rest, line := n + 1 }
  ((s.add .finish []).found.reverse.toArray, s.faults.reverse)

end Remedy.Tool.Records
