import Remedy.Shell.Arithmetic
import Remedy.Unix.Sight

namespace Remedy.Shell.Test

open Unix Files

def unaryOperators : List String :=
  ["-r", "-w", "-x", "-e", "-f", "-d", "-c", "-b", "-p", "-u", "-g", "-k", "-s", "-t", "-z", "-n",
    "-h", "-L", "-S", "-O", "-G"]

def binaryOperators : List String :=
  ["=", "!=", "<", ">", "-eq", "-ne", "-ge", "-gt", "-le", "-lt", "-nt", "-ot", "-ef"]

inductive Kind where
  | finish
  | operand
  | unary
  | binary
  | conjunction
  | disjunction
  | not
  | opening
  | closing
deriving DecidableEq, Repr

def operator? (s : String) : Option Kind :=
  if unaryOperators.contains s then some .unary
  else if binaryOperators.contains s then some .binary
  else
    match s with
    | "-a" => some .conjunction
    | "-o" => some .disjunction
    | "!" => some .not
    | "(" => some .opening
    | ")" => some .closing
    | _ => none

/-- Whether an operator of one operand is an operand itself, since there is none for it. -/
def standsAlone (words : Array String) (i : Nat) : Bool :=
  match words[i + 1]?, words[i + 2]? with
  | none, _ => true
  | some _, none => false
  | some t, some _ => operator? t == some .binary

def kindAt (words : Array String) (i : Nat) : Kind :=
  match words[i]? with
  | none => .finish
  | some s =>
    match operator? s with
    | none => .operand
    | some .unary => if standsAlone words i then .operand else .unary
    | some .opening => if words[i + 1]?.isNone then .operand else .opening
    | some k => k

abbrev Reading := StateT Nat (Except String)

def complain (operator : String) (message : String) : Reading α :=
  throw (if operator == "" then message else operator ++ ": " ++ message)

def integer (s : String) : Reading Int :=
  match Arithmetic.decimal? s.toList with
  | some n => return n
  | none => throw ("Illegal number: " ++ s)

def statusAnd (v : View) (path : String) (follow : Bool) (p : Status → Bool) : Bool :=
  match v.status path follow with
  | .ok s => p s
  | .error _ => false

def ofFile (v : View) (operator path : String) : Bool :=
  let has (bit : Nat) := statusAnd v path true fun s => s.mode &&& bit != 0
  let isKind (k : Files.Kind) := statusAnd v path true fun s => s.kind == k
  match operator with
  | "-e" | "-r" | "-w" | "-O" | "-G" => statusAnd v path true fun _ => true
  | "-x" => statusAnd v path true fun s => s.kind == .directory || s.isExecutable
  | "-f" => isKind .regular
  | "-d" => isKind .directory
  | "-c" => isKind .character
  | "-p" => isKind .fifo
  | "-s" => statusAnd v path true fun s => s.size > 0
  | "-h" | "-L" => statusAnd v path false fun s => s.kind == .link
  | "-u" => has 2048
  | "-g" => has 1024
  | "-k" => has 512
  | _ => false

def isSame (v : View) (a b : String) : Bool :=
  match v.node a true, v.node b true with
  | .ok m, .ok n =>
    match m.inode?, n.inode? with
    | some i, some j => i == j
    | _, _ => (v.location a true).toOption == (v.location b true).toOption
  | _, _ => false

/-- Whether a file was changed after another one, which may be missing. -/
def isNewer (v : View) (a b : String) : Bool :=
  match v.status a true, v.status b true with
  | .ok s, .ok t => s.modified > t.modified
  | .ok _, .error _ => true
  | .error _, _ => false

/-- Whether both files are there and the first one was changed after the second. -/
def isStrictlyNewer (v : View) (a b : String) : Bool :=
  match v.status a true, v.status b true with
  | .ok s, .ok t => s.modified > t.modified
  | _, _ => false

def unary (v : View) (operator operand : String) : Reading Bool := do
  match operator with
  | "-z" => return operand == ""
  | "-n" => return operand != ""
  | "-t" =>
    let _ ← integer operand
    return false
  | o => return ofFile v o operand

def binary (v : View) (operator a b : String) : Reading Bool := do
  let compare (p : Int → Int → Bool) : Reading Bool := do
    let m ← integer a
    let n ← integer b
    return p m n
  match operator with
  | "=" => return a == b
  | "!=" => return a != b
  | "<" => return decide (a < b)
  | ">" => return decide (b < a)
  | "-eq" => compare (· == ·)
  | "-ne" => compare (· != ·)
  | "-lt" => compare fun m n => m < n
  | "-le" => compare fun m n => m ≤ n
  | "-gt" => compare fun m n => n < m
  | "-ge" => compare fun m n => n ≤ m
  | "-nt" => return isStrictlyNewer v a b
  | "-ot" => return isStrictlyNewer v b a
  | _ => return isSame v a b

section

variable (v : View) (words : Array String)

def wordAt (i : Nat) : String := words.getD i ""

mutual

/-- Reads the place where an alternative begins; the place is left at the last word of it. -/
def disjunction : Nat → Kind → Reading Bool
  | 0, _ => complain "" "too many arguments"
  | n + 1, k => do
    let a ← conjunction n k
    if kindAt words ((← get) + 1) == .disjunction then
      modify (· + 2)
      let b ← disjunction n (kindAt words (← get))
      return a || b
    else return a

def conjunction : Nat → Kind → Reading Bool
  | 0, _ => complain "" "too many arguments"
  | n + 1, k => do
    let a ← negation n k
    if kindAt words ((← get) + 1) == .conjunction then
      modify (· + 2)
      let b ← conjunction n (kindAt words (← get))
      return a && b
    else return a

def negation : Nat → Kind → Reading Bool
  | 0, _ => complain "" "too many arguments"
  | n + 1, k => do
    if k != .not then primary n k
    else
      let next := kindAt words ((← get) + 1)
      if next != .finish then modify (· + 1)
      return !(← negation n next)

def primary : Nat → Kind → Reading Bool
  | 0, _ => complain "" "too many arguments"
  | n + 1, k => do
    let i ← get
    match k with
    | .finish => return false
    | .opening =>
      set (i + 1)
      let next := kindAt words (i + 1)
      if next == .closing then return false
      else
        let a ← disjunction n next
        modify (· + 1)
        if kindAt words (← get) != .closing then complain "" "closing paren expected"
        return a
    | .unary =>
      set (i + 1)
      if (words[i + 1]?).isNone then complain (wordAt words i) "argument expected"
      else unary v (wordAt words i) (wordAt words (i + 1))
    | _ =>
      if kindAt words (i + 1) == .binary then
        set (i + 2)
        if (words[i + 2]?).isNone then complain (wordAt words (i + 1)) "argument expected"
        else binary v (wordAt words (i + 1)) (wordAt words i) (wordAt words (i + 2))
      else return wordAt words i != ""

end

end

/-- Evaluates words; an operator between three of them goes before everything else. -/
def evaluateWith (v : View) : Nat → Bool → List String → Except String Bool
  | 0, _, _ => .error "too many arguments"
  | _, negated, [] => .ok negated
  | n + 1, negated, words =>
    let array := words.toArray
    let finish (words : Array String) (k : Kind) : Except String Bool := do
      let (a, i) ← (disjunction v words (4 * words.size + 8) k).run 0
      match words[i]?, words[i + 1]? with
      | some s, some _ =>
        .error (if s == "" then "unexpected operator" else s ++ ": unexpected operator")
      | _, _ => .ok (a != negated)
    let isBinary := words.length = 3 && operator? (wordAt array 1) == some .binary
    if isBinary then finish array .operand
    else if words.length = 3 ∨ words.length = 4 then
      if words.head? = some "(" ∧ words.getLast? = some ")" then
        let inner := (words.drop 1).dropLast.toArray
        finish inner (kindAt inner 0)
      else if words.head? = some "!" then evaluateWith v n (!negated) (words.drop 1)
      else finish array (kindAt array 0)
    else finish array (kindAt array 0)

def evaluate (v : View) (words : List String) : Except String Bool :=
  evaluateWith v (words.length + 1) false words

end Remedy.Shell.Test
