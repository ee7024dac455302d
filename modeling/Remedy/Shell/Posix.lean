namespace Remedy.Shell.Posix

/-- The characters that keep a meaning between double quotes. -/
def isActive (c : Char) : Bool := c == '"' || c == '\\' || c == '$' || c == '\x60'

/-- A backslash before every active character. -/
def escape : List Char → List Char
  | [] => []
  | c :: cs => if isActive c then '\\' :: c :: escape cs else c :: escape cs

def quote (value : List Char) : List Char := '"' :: escape value ++ ['"']

def isLiteral (c : Char) : Bool :=
  c.isAlphanum || c == '.' || c == '/' || c == '_' || c == '-'

inductive Place where
  | plain
  | quoted
  | escaped
deriving DecidableEq, Repr

/-- A line as far as it is read: the words that have ended, and the one that has begun. -/
structure Reading where
  place : Place := .plain
  words : List (List Char) := []
  word : Option (List Char) := none
deriving DecidableEq, Repr

namespace Reading

def extend (r : Reading) (cs : List Char) : Reading :=
  { r with word := some (r.word.getD [] ++ cs) }

def allWords (r : Reading) : List (List Char) := r.words ++ r.word.toList

def read? (r : Reading) (c : Char) : Option Reading :=
  match r.place with
  | .plain =>
    if c = '"' then some { r.extend [] with place := .quoted }
    else if c = ' ' then some { words := r.allWords }
    else if isLiteral c then some (r.extend [c])
    else none
  | .quoted =>
    if c = '"' then some { r with place := .plain }
    else if c = '\\' then some { r with place := .escaped }
    else if isActive c then none
    else some (r.extend [c])
  | .escaped =>
    let r := { r with place := .quoted }
    if c = '\n' then some r
    else if isActive c then some (r.extend [c])
    else some (r.extend ['\\', c])

end Reading

def words? (line : List Char) : Option (List (List Char)) := do
  let r ← line.foldlM Reading.read? {}
  guard (r.place = .plain)
  return r.allWords

end Remedy.Shell.Posix
