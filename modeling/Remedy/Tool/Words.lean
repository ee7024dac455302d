import Remedy.Regex.Matching
import Remedy.Shell.Test
import Remedy.Text.Echo
import Remedy.Text.Printf
import Remedy.Tool.Basic

namespace Remedy.Tool.Words

open Unix Text

def echoEscapes : Escape.Style := { longOctal := true, hexadecimal := true, stops := true }

def echo (words : List String) : Tool Unit := put (Echo.ofWords echoEscapes words)

def yes (words : List String) : Tool Unit := do
  let g ← given [] words true
  let line := (if g.operands.isEmpty then "y" else " ".intercalate g.operands) ++ "\n"
  let many := String.join (List.replicate (bufferSize / line.utf8ByteSize + 1) line)
  let rec go : Nat → Tool Unit
    | 0 => pure ()
    | n + 1 => do
      put many
      go n
  go Act.limit

def fits (w : Directive.Written) (letter : Char) : Bool :=
  let has (c : Char) := w.flags.contains c
  let isBare := w.flags.isEmpty && w.width == .none && w.precision == .none
  if letter == 'b' || letter == 'q' then isBare
  else if letter == 'c' then !has '#' && !has '0' && w.precision == .none
  else if letter == 's' then !has '#' && !has '0'
  else if letter == 'd' || letter == 'i' || letter == 'u' then !has '#'
  else true

def printfStyle : Printf.Style where
  noNumber s := quotedAlways s ++ ": expected a numeric value"
  notWhole s := quotedAlways s ++ ": value not completely converted"
  outOfRange s := quotedAlways s ++ ": Numerical result out of range"
  invalid d := d ++ ": invalid conversion specification"
  invalidStatus := 1
  unfinished d := d ++ ": invalid conversion specification"
  formatEscapes :=
    { hexadecimal := true, stops := true, quotes := true, universal := true, isStrict := true }
  operandEscapes :=
    { longOctal := true, hexadecimal := true, stops := true, quotes := true, universal := true,
      isStrict := true }
  quoted := some quotedWord
  skipsSizes := true
  isRounded := false
  fits := fits
  excess := some fun s =>
    "warning: " ++ s ++ ": character(s) following character constant have been ignored"
  incomplete := "missing hexadecimal number in escape"

def printf (words : List String) : Tool Unit := do
  match if words.head? = some "--" then words.drop 1 else words with
  | [] => refuse 1 "missing operand"
  | format :: operands =>
    let p := Printf.run printfStyle format operands
    p.pieces.reverse.forM fun
      | .text s => put s
      | .complaint s => complain s
    note p.status
    unless p.isOver do
      match p.operands with
      | excess :: _ =>
        complain ("warning: ignoring excess arguments, starting with " ++ quotedAlways excess)
      | [] => pure ()

/-- Repeats a step as long as it yields something, at most so many times. -/
def repeated [Monad m] (step : α → m (Option α)) : Nat → α → m α
  | 0, a => pure a
  | n + 1, a => do
    match ← step a with
    | some a => repeated step n a
    | none => pure a

/-- Reading of tests; the state is the place of the next word. -/
abbrev Testing := StateT Nat (Except String)

section

variable (v : View) (words : Array String)

def wordAt (i : Nat) : String := words.getD i ""

def isBinary (s : String) : Bool :=
  ["=", "!=", "==", "-nt", "-ot", "-ef", "-eq", "-ne", "-lt", "-le", "-gt", "-ge"].contains s

def missing : Testing α :=
  throw ("missing argument after " ++ quotedAlways (words.back?.getD ""))

def number (s : String) : Testing Int := do
  let isBlank (c : Char) : Bool := c == ' ' || c == '\t'
  let cs := s.toList.dropWhile isBlank
  let (negative, cs) := match cs with
    | '-' :: rest => (true, rest)
    | '+' :: rest => (false, rest)
    | cs => (false, cs)
  let digits := cs.takeWhile Char.isDigit
  if digits.isEmpty || !(cs.drop digits.length).all isBlank then
    throw ("invalid integer " ++ quotedAlways s)
  let n : Int := Directive.decimal digits
  return if negative then -n else n

def binary (operator a b : String) : Testing Bool := do
  let compare (p : Int → Int → Bool) : Testing Bool := do
    let m ← number a
    let n ← number b
    return p m n
  match operator with
  | "=" | "==" => return a == b
  | "!=" => return a != b
  | "-nt" => return Shell.Test.isNewer v a b
  | "-ot" => return Shell.Test.isNewer v b a
  | "-ef" => return Shell.Test.isSame v a b
  | "-eq" => compare (· == ·)
  | "-ne" => compare (· != ·)
  | "-lt" => compare fun m n => m < n
  | "-le" => compare fun m n => m ≤ n
  | "-gt" => compare fun m n => n < m
  | _ => compare fun m n => n ≤ m

/-- An operator between two words; where one of them is `-l` the length of the next word counts. -/
def dyadic (withLength : Bool) : Testing Bool := do
  let i ← get
  let i := if withLength then i + 1 else i
  let a := wordAt words i
  let a := if withLength then toString a.length else a
  let next := wordAt words (i + 2)
  if next == "-l" && i + 3 < words.size then
    set (i + 4)
    binary v (wordAt words (i + 1)) a (toString (wordAt words (i + 3)).length)
  else
    set (i + 3)
    binary v (wordAt words (i + 1)) a next

def unary : Testing Bool := do
  let i ← get
  let operator := wordAt words i
  unless (Shell.Test.unaryOperators ++ ["-N"]).contains operator do
    throw (quotedAlways operator ++ ": unary operator expected")
  if words.size ≤ i + 1 then missing words
  set (i + 2)
  let operand := wordAt words (i + 1)
  match operator with
  | "-z" => return operand == ""
  | "-n" => return operand != ""
  | "-t" =>
    let _ ← number operand
    return false
  | o => return Shell.Test.ofFile v o operand

def isOption (s : String) : Bool := s.length = 2 && s.startsWith "-"

inductive Part where
  | disjunction
  | conjunction
  | term
  | counted (n : Nat)
deriving DecidableEq, Repr

def part : Nat → Part → Testing Bool
  | 0, _ => missing words
  | fuel + 1, p => do
    let i ← get
    let word := wordAt words i
    let single : Testing Bool := do
      modify (· + 1)
      return word != ""
    let negated (n : Nat) : Testing Bool := do
      modify (· + 1)
      return !(← part fuel (.counted n))
    match p with
    | .disjunction =>
      let a ← part fuel .conjunction
      repeated (fun a => do
        if wordAt words (← get) != "-o" then return none
        modify (· + 1)
        let b ← part fuel .conjunction
        return some (a || b)) words.size a
    | .conjunction =>
      let a ← part fuel .term
      repeated (fun a => do
        if wordAt words (← get) != "-a" then return none
        modify (· + 1)
        let b ← part fuel .term
        return some (a && b)) words.size a
    | .term =>
      if words.size ≤ i then missing words
      else if word == "!" then
        set (i + 1)
        return !(← part fuel .term)
      else if word == "(" then
        set (i + 1)
        if words.size ≤ i + 1 then missing words
        let inner := (words.toList.drop (i + 2)).takeWhile (· ≠ ")")
        let n := inner.length + 1
        let a ← part fuel (.counted (if n > 3 then words.size - i - 1 else n))
        match words[← get]? with
        | none => throw "')' expected"
        | some w =>
          if w != ")" then throw ("')' expected, found " ++ w)
          modify (· + 1)
          return a
      else if 4 ≤ words.size - i && word == "-l" && isBinary (wordAt words (i + 2)) then
        dyadic v words true
      else if 3 ≤ words.size - i && isBinary (wordAt words (i + 1)) then dyadic v words false
      else if isOption word then unary v words
      else single
    | .counted 0 => return false
    | .counted 1 => single
    | .counted 2 =>
      if word == "!" then negated 1
      else if isOption word then unary v words
      else missing words
    | .counted 3 =>
      let operator := wordAt words (i + 1)
      if isBinary operator then dyadic v words false
      else if word == "!" then negated 2
      else if word == "(" && wordAt words (i + 2) == ")" then
        set (i + 1)
        let a ← part fuel (.counted 1)
        modify (· + 1)
        return a
      else if operator == "-a" || operator == "-o" then part fuel .disjunction
      else throw (quotedAlways operator ++ ": binary operator expected")
    | .counted 4 =>
      if word == "!" then negated 3
      else if word == "(" && wordAt words (i + 3) == ")" then
        set (i + 1)
        let a ← part fuel (.counted 2)
        modify (· + 1)
        return a
      else part fuel .disjunction
    | .counted _ => if words.size ≤ i then missing words else part fuel .disjunction

def evaluate : Except String Bool := do
  let (holds, i) ← (part v words (8 * words.size + 8) (.counted words.size)).run 0
  match words[i]? with
  | some w => .error ("extra argument " ++ quotedAlways w)
  | none => .ok holds

end

def test (words : List String) : Tool Unit := do
  match evaluate (← look) words.toArray with
  | .ok holds => setStatus (if holds then 0 else 1)
  | .error message => fail 2 message

def bracket (words : List String) : Tool Unit := do
  if words.getLast? = some "]" then test words.dropLast else fail 2 "missing ']'"

inductive Value where
  | integer (n : Int)
  | text (s : String)

namespace Value

def toText : Value → String
  | .integer n => toString n
  | .text s => s

def toInteger? : Value → Option Int
  | .integer n => some n
  | .text s =>
    match s.toList with
    | '-' :: cs => if !cs.isEmpty && cs.all Char.isDigit then some (-(Directive.decimal cs : Int))
      else none
    | cs => if !cs.isEmpty && cs.all Char.isDigit then some (Directive.decimal cs) else none

def isNothing : Value → Bool
  | .integer n => n == 0
  | .text s => s == "" || (Value.text s).toInteger? == some 0

def ofBool (b : Bool) : Value := .integer (if b then 1 else 0)

end Value

structure Left where
  words : List String
  last : String := ""

abbrev Calculating := StateT Left (Except String)

namespace Calculating

def take? (candidates : List String) : Calculating (Option String) := do
  let l ← get
  match l.words with
  | w :: rest =>
    if candidates.contains w then
      set { words := rest, last := w : Left }
      return some w
    else return none
  | [] => return none

def word : Calculating String := do
  let l ← get
  match l.words with
  | w :: rest =>
    set { words := rest, last := w : Left }
    return w
  | [] => throw ("syntax error: missing argument after " ++ quotedAlways l.last)

end Calculating

def matched (a b : Value) : Calculating Value := do
  match Regex.read { isExtended := false } b.toText with
  | .error e => throw e
  | .ok r =>
    let p := Regex.compile r
    let text := a.toText.toList.toArray
    let piece (m n : Nat) := String.ofList (text.extract m n).toList
    match Regex.matchAt? p {} text 0 with
    | none => return if p.groups = 0 then .integer 0 else .text ""
    | some found =>
      if p.groups = 0 then return .integer found.stop
      else
        return match found.group? 1 with
          | some (m, n) => .text (piece m n)
          | none => .text ""

def compared (operator : String) (a b : Value) : Value :=
  let (less, same) := match a.toInteger?, b.toInteger? with
    | some m, some n => (decide (m < n), m == n)
    | _, _ => (decide (a.toText < b.toText), a.toText == b.toText)
  .ofBool (match operator with
    | "<" => less
    | "<=" => less || same
    | "=" | "==" => same
    | "!=" => !same
    | ">=" => !less
    | _ => !less && !same)

def calculated (operator : String) (a b : Value) : Calculating Value := do
  match a.toInteger?, b.toInteger? with
  | some m, some n =>
    match operator with
    | "+" => return .integer (m + n)
    | "-" => return .integer (m - n)
    | "*" => return .integer (m * n)
    | o =>
      if n = 0 then throw "division by zero"
      return .integer (if o == "/" then m.tdiv n else m.tmod n)
  | _, _ => throw "non-integer argument"

def operatorsAt : Nat → List String
  | 0 => ["|"]
  | 1 => ["&"]
  | 2 => ["<", "<=", "=", "==", "!=", ">=", ">"]
  | 3 => ["+", "-"]
  | 4 => ["*", "/", "%"]
  | _ => [":"]

def substring (text from' count : Value) : Value :=
  match from'.toInteger?, count.toInteger? with
  | some m, some n =>
    if m ≤ 0 ∨ n ≤ 0 then .text ""
    else .text (String.ofList ((text.toText.toList.drop (m.toNat - 1)).take n.toNat))
  | _, _ => .text ""

def joined (operator : String) (strength : Nat) (live : Bool) (a b : Value) :
    Calculating Value := do
  match strength with
  | 0 =>
    let chosen := if a.isNothing then b else a
    return if chosen.isNothing then .integer 0 else chosen
  | 1 => return if a.isNothing || b.isNothing then .integer 0 else a
  | 2 => return if live then compared operator a b else a
  | 3 | 4 => if live then calculated operator a b else return a
  | _ => if live then matched a b else return a

/-- Reads and calculates at a strength; where `live` is not set nothing is calculated. -/
def calculate : Nat → Nat → Bool → Calculating Value
  | 0, _, _ => throw "syntax error"
  | fuel + 1, strength, live => do
    if strength ≤ 5 then
      let a ← calculate fuel (strength + 1) live
      let length := (← get).words.length
      repeated (fun a => do
        match ← Calculating.take? (operatorsAt strength) with
        | none => return none
        | some operator =>
          let wanted := match strength with
            | 0 => live && a.isNothing
            | 1 => live && !a.isNothing
            | _ => live
          let b ← calculate fuel (strength + 1) wanted
          some <$> joined operator strength live a b) length a
    else
      let operand := calculate fuel 6 live
      match ← Calculating.take? ["+", "length", "match", "index", "substr", "("] with
      | some "+" => return .text (← Calculating.word)
      | some "length" => return .integer (← operand).toText.length
      | some "match" =>
        let a ← operand
        let b ← operand
        if live then matched a b else return a
      | some "index" =>
        let a ← operand
        let b ← operand
        return .integer (match a.toText.toList.findIdx? b.toText.toList.contains with
          | some i => i + 1
          | none => 0)
      | some "substr" =>
        let a ← operand
        let m ← operand
        let n ← operand
        return substring a m n
      | some _ =>
        let a ← calculate fuel 0 live
        let l ← get
        match l.words with
        | [] => throw ("syntax error: expecting ')' after " ++ quotedAlways l.last)
        | ")" :: _ =>
          let _ ← Calculating.word
          return a
        | w :: _ => throw ("syntax error: expecting ')' instead of " ++ quotedAlways w)
      | none =>
        let w ← Calculating.word
        if w == ")" then throw "syntax error: unexpected ')'"
        return .text w

def expr (words : List String) : Tool Unit := do
  let words := if words.head? = some "--" then words.drop 1 else words
  if words.isEmpty then refuse 2 "missing operand"
  match (calculate (8 * words.length + 8) 0 true).run { words } with
  | .error message => fail 2 message
  | .ok (value, left) =>
    match left.words with
    | w :: _ => fail 2 ("syntax error: unexpected argument " ++ quotedAlways w)
    | [] =>
      putLine value.toText
      setStatus (if value.isNothing then 1 else 0)

def catalogue : List (String × (List String → Tool Unit)) := [
  ("echo", echo),
  ("printf", printf),
  ("yes", yes),
  ("true", fun _ => pure ()),
  ("false", fun _ => setStatus 1),
  ("test", test),
  ("[", bracket),
  ("expr", expr)]

end Remedy.Tool.Words
