import Remedy.Shell.Command

namespace Remedy.Shell

/-- Why a text is no command, and the line where this shows. -/
structure SyntaxError where
  line : Nat
  message : String
deriving DecidableEq, Repr

/-- A text that stands after the line and is read up to a line of its own. -/
structure Awaited where
  number : Nat
  delimiter : String
  dropsTabs : Bool
  isLiteral : Bool

inductive Token where
  | word (w : Word)
  | keyword (s : String)
  | operator (s : String)
  | redirection (fd : Option Nat) (operator : String)
  | newline
  | finish

structure Substituted where
  name : String
  after : Nat
  allowsNext : Bool

structure Reading where
  rest : List Char
  line : Nat := 1
  dialect : Dialect := .plain
  aliases : List (String × String) := []
  substituted : List Substituted := []
  pushed : Option Token := none
  awaited : List Awaited := []
  documents : List (Nat × Word) := []
  nextDocument : Nat := 0
  bound : Nat

abbrev Parser := StateT Reading (Except SyntaxError)

namespace Parser

def fail (message : String) : Parser α := do
  throw { line := (← get).line, message }

def peek : Parser (Option Char) := return (← get).rest.head?

def skip (n : Nat) : Parser Unit := modify fun r => { r with rest := r.rest.drop n }

def newLine : Parser Unit := modify fun r => { r with line := r.line + 1 }

def takeWhile (p : Char → Bool) : Parser String := do
  let r ← get
  let taken := r.rest.takeWhile p
  set { r with rest := r.rest.drop taken.length }
  return String.ofList taken

def isExtended : Parser Bool := return (← get).dialect == .extended

/-- Takes the characters as far as one, which is taken too; `none` if it does not come. -/
def takeThrough (c : Char) : Parser (Option String) := do
  let r ← get
  let taken := r.rest.takeWhile (· ≠ c)
  let lines := taken.countP (· == '\n')
  match r.rest.drop taken.length with
  | [] =>
    set { r with rest := [], line := r.line + lines }
    return none
  | _ :: rest =>
    set { r with rest, line := r.line + lines }
    return some (String.ofList taken)

end Parser

namespace Token

def describe : Token → String
  | .word _ => "word"
  | .keyword s | .operator s => "\"" ++ s ++ "\""
  | .redirection .. => "redirection"
  | .newline => "newline"
  | .finish => "end of file"

def isOperator (t : Token) (s : String) : Bool :=
  match t with
  | .operator o => o == s
  | _ => false

def isKeyword (t : Token) (s : String) : Bool :=
  match t with
  | .keyword k => k == s
  | _ => false

def endsList : Token → Bool
  | .finish => true
  | .operator s => [")", ";;", ";&", ";;&"].contains s
  | .keyword s => ["do", "done", "elif", "else", "esac", "fi", "then", "\x7d"].contains s
  | _ => false

end Token

/-- The parts of a word while it is read, the last one first. -/
structure Gathered where
  parts : List Part := []
  text : List Char := []
  isQuoted : Bool := false
  hasText : Bool := false

namespace Gathered

def close (g : Gathered) : Gathered :=
  if g.hasText then
    { parts := .literal (String.ofList g.text.reverse) g.isQuoted :: g.parts }
  else g

def addChar (g : Gathered) (c : Char) (quoted : Bool) : Gathered :=
  if g.hasText && g.isQuoted == quoted then { g with text := c :: g.text }
  else
    let g := g.close
    { g with text := [c], isQuoted := quoted, hasText := true }

/-- Adds a text; a quoted one counts even if it is empty. -/
def addText (g : Gathered) (s : String) (quoted : Bool) : Gathered :=
  if g.hasText && g.isQuoted == quoted then { g with text := s.toList.reverse ++ g.text }
  else if s = "" && !quoted then g
  else
    let g := g.close
    { g with text := s.toList.reverse, isQuoted := quoted, hasText := true }

def addPart (g : Gathered) (p : Part) : Gathered :=
  let g := g.close
  { g with parts := p :: g.parts }

def addParts (g : Gathered) (ps : List Part) : Gathered :=
  let g := g.close
  { g with parts := ps.reverse ++ g.parts }

def isEmpty (g : Gathered) : Bool := g.parts.isEmpty && !g.hasText

def word (g : Gathered) : Word := g.close.parts.reverse

end Gathered

end Remedy.Shell
