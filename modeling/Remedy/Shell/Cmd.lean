namespace Remedy.Shell.Cmd

/-- A percent sign leaves the quotes and gets a caret there; a quote is written twice. -/
def escape : List Char → List Char
  | [] => []
  | '%' :: cs => '"' :: '^' :: '%' :: '"' :: escape cs
  | '"' :: cs => '"' :: '"' :: escape cs
  | c :: cs => c :: escape cs

def quote (value : List Char) : List Char := '"' :: escape value ++ ['"']

def unescape? : List Char → Option (List Char)
  | ['"'] => some []
  | '"' :: '^' :: '%' :: '"' :: cs => (unescape? cs).map ('%' :: ·)
  | '"' :: '"' :: cs => (unescape? cs).map ('"' :: ·)
  | c :: cs => if c = '"' ∨ c = '%' then none else (unescape? cs).map (c :: ·)
  | [] => none

def unquote? : List Char → Option (List Char)
  | '"' :: cs => unescape? cs
  | _ => none

inductive Place where
  | plain
  | escaped
  | quoted
deriving DecidableEq, Repr

/-- The place behind a character; every quote that is not escaped toggles quotation. -/
def Place.after (p : Place) (c : Char) : Place :=
  match p with
  | .plain => if c = '"' then .quoted else if c = '^' then .escaped else .plain
  | .escaped => .plain
  | .quoted => if c = '"' then .plain else .quoted

structure Mark where
  char : Char
  place : Place
deriving DecidableEq, Repr

/-- Marks the characters of a line; a caret that makes the next one literal goes away. -/
def marks (p : Place) : List Char → List Mark
  | [] => []
  | c :: cs =>
    if p = .plain ∧ c = '^' then marks .escaped cs else ⟨c, p⟩ :: marks (p.after c) cs

def passed (line : List Char) : List Char := (marks .plain line).map (·.char)

/-- Where in a line the started program meets a character. -/
inductive Part where
  | bare
  | quoted
  /-- Behind a quote that ends the quotation, unless another one follows. -/
  | closing
deriving DecidableEq, Repr

/-- A line as far as the program has read it: the arguments that have ended, the one that has begun,
and the backslashes just before. -/
structure Reading where
  part : Part := .bare
  arguments : List (List Char) := []
  argument : Option (List Char) := none
  backslashes : Nat := 0
deriving DecidableEq, Repr

namespace Reading

def extend (r : Reading) (cs : List Char) : Reading :=
  { r with argument := some (r.argument.getD [] ++ cs) }

def settle (r : Reading) : Reading :=
  if r.backslashes = 0 then r
  else { r.extend (List.replicate r.backslashes '\\') with backslashes := 0 }

def allArguments (r : Reading) : List (List Char) := r.arguments ++ r.settle.argument.toList

/-- Reads a quote: two backslashes before it are one, and an odd one makes it literal. -/
def readQuote (r : Reading) : Reading :=
  let settled := { r.extend (List.replicate (r.backslashes / 2) '\\') with backslashes := 0 }
  if r.backslashes % 2 = 1 then settled.extend ['"']
  else { settled with part := if r.part = .quoted then .closing else .quoted }

/-- Reads a character that no quote which may end a quotation stands before. -/
def readOpen (r : Reading) (c : Char) : Reading :=
  if c = '\\' then { r with backslashes := r.backslashes + 1 }
  else if c = '"' then r.readQuote
  else if c = ' ' ∧ r.part = .bare then { arguments := r.allArguments }
  else r.settle.extend [c]

/-- Reads one character; a quote written twice inside of quotes is one quote. -/
def read (r : Reading) (c : Char) : Reading :=
  if r.part = .closing then
    if c = '"' then { r.extend ['"'] with part := .quoted } else { r with part := .bare }.readOpen c
  else r.readOpen c

end Reading

def arguments (line : List Char) : List (List Char) := (line.foldl Reading.read {}).allArguments

end Remedy.Shell.Cmd
