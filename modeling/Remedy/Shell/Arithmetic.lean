import Remedy.Power
import Remedy.Shell.Command

namespace Remedy.Shell.Arithmetic

def wrap (n : Int) : Int := n.bmod (twoTo 64)

def greatest : Int := twoTo 63 - 1

def least : Int := -twoTo 63

def clamp (n : Int) : Int := max least (min greatest n)

def digitValue (c : Char) : Nat :=
  if c.isDigit then c.toNat - 48
  else if 'a' ≤ c && c ≤ 'z' then c.toNat - 87
  else if 'A' ≤ c && c ≤ 'Z' then c.toNat - 55
  else 99

def digitsIn (base : Nat) (cs : List Char) : List Char := cs.takeWhile fun c => digitValue c < base

def valueIn (base : Nat) (digits : List Char) : Nat :=
  digits.foldl (fun n c => base * n + digitValue c) 0

/-- A number at the beginning of a text, octal after a zero and hexadecimal after `0x`, and what
follows it; `none` where there are no digits. -/
def numeral? (cs : List Char) : Option (Nat × List Char) :=
  match cs with
  | '0' :: x :: rest =>
    if (x == 'x' || x == 'X') && (rest.head?.any fun c => digitValue c < 16) then
      let digits := digitsIn 16 rest
      some (valueIn 16 digits, rest.drop digits.length)
    else
      let digits := digitsIn 8 (x :: rest)
      some (valueIn 8 digits, (x :: rest).drop digits.length)
  | _ =>
    let digits := digitsIn 10 cs
    if digits.isEmpty then none else some (valueIn 10 digits, cs.drop digits.length)

def isBlank (c : Char) : Bool := c == ' ' || ('\t' ≤ c && c ≤ '\r')

/-- An integer in decimal digits with blanks around it, if it fits into 64 bits. -/
def decimal? (cs : List Char) : Option Int :=
  let (negative, digits) := match cs.dropWhile isBlank with
    | '-' :: rest => (true, rest)
    | '+' :: rest => (false, rest)
    | cs => (false, cs)
  let number := digits.takeWhile Char.isDigit
  let n : Int := valueIn 10 number
  let n := if negative then -n else n
  if !number.isEmpty && (digits.drop number.length).all isBlank && clamp n = n then some n
  else none

def integer? (cs : List Char) : Option (Int × List Char) :=
  match cs.dropWhile isBlank with
  | '-' :: rest => (numeral? rest).map fun (n, rest) => (-(n : Int), rest)
  | '+' :: rest => (numeral? rest).map fun (n, rest) => ((n : Int), rest)
  | cs => (numeral? cs).map fun (n, rest) => ((n : Int), rest)

/-- The value of a variable; one without a text is zero. -/
def valueOf? (s : String) : Option Int :=
  if s = "" then some 0
  else
    match integer? s.toList with
    | some (n, rest) => if rest.all isBlank then some (clamp n) else none
    | none => none

inductive Fault where
  | malformed (reason : String)
  | noNumber (text : String)
deriving DecidableEq, Repr

inductive Token where
  | number (n : Int)
  | name (s : String)
  | operator (s : String)
  | unknown
deriving DecidableEq, Repr

def operators (extended : Bool) : List String :=
  (if extended then ["**", "++", "--", ","] else []) ++
    ["<<=", ">>=", "||", "&&", "==", "!=", "<=", ">=", "<<", ">>", "+=", "-=", "*=", "/=", "%=",
      "&=", "|=", "^=", "+", "-", "*", "/", "%", "<", ">", "!", "~", "&", "|", "^", "(", ")", "?",
      ":", "="]

def based? (base : Nat) (cs : List Char) : Option (Nat × List Char) :=
  match cs with
  | '#' :: rest =>
    let value (c : Char) : Nat :=
      if base ≤ 36 then digitValue c
      else if 'A' ≤ c && c ≤ 'Z' then c.toNat - 29
      else if c == '@' then 62
      else if c == '_' then 63
      else digitValue c
    let digits := rest.takeWhile fun c => value c < base
    if digits.isEmpty then none
    else some (digits.foldl (fun n c => base * n + value c) 0, rest.drop digits.length)
  | _ => none

def scan (extended : Bool) : Nat → List Char → List Token
  | _, [] => []
  | 0, _ => [.unknown]
  | fuel + 1, c :: rest =>
    if isBlank c then scan extended fuel rest
    else if c.isDigit then
      match numeral? (c :: rest) with
      | some (n, rest) =>
        match if extended then based? n rest else none with
        | some (n, rest) => .number (clamp n) :: scan extended fuel rest
        | none => .number (clamp n) :: scan extended fuel rest
      | none => [.unknown]
    else if isNameStart c then
      let name := (c :: rest).takeWhile isNameChar
      let rest := (c :: rest).drop name.length
      if extended && rest.head? == some '[' then
        let index := rest.takeWhile (· ≠ ']') ++ [']']
        .name (String.ofList (name ++ index)) :: scan extended fuel (rest.drop index.length)
      else .name (String.ofList name) :: scan extended fuel rest
    else
      match (operators extended).find? (·.toList.isPrefixOf (c :: rest)) with
      | some s => .operator s :: scan extended fuel ((c :: rest).drop s.length)
      | none => [.unknown]

/-- What is left of an expression, and the variables that it has assigned, the last one first. -/
structure Progress where
  tokens : List Token
  assigned : List (String × Int) := []

abbrev Calculation := StateT Progress (Except Fault)

def fail (reason : String) : Calculation α := throw (.malformed reason)

def peek : Calculation (Option Token) := return (← get).tokens.head?

def skip : Calculation Unit := modify fun p => { p with tokens := p.tokens.tail }

def takes (operator : String) : Calculation Bool := do
  if (← peek) == some (.operator operator) then
    skip
    return true
  else return false

def ofBool (b : Bool) : Int := if b then 1 else 0

def precedence? : String → Option Nat
  | "|" => some 1
  | "^" => some 2
  | "&" => some 3
  | "==" | "!=" => some 4
  | "<" | "<=" | ">" | ">=" => some 5
  | "<<" | ">>" => some 6
  | "+" | "-" => some 7
  | "*" | "/" | "%" => some 8
  | "**" => some 9
  | _ => none

def assignment? : String → Option (Option String)
  | "=" => some none
  | "+=" => some "+"
  | "-=" => some "-"
  | "*=" => some "*"
  | "/=" => some "/"
  | "%=" => some "%"
  | "&=" => some "&"
  | "|=" => some "|"
  | "^=" => some "^"
  | "<<=" => some "<<"
  | ">>=" => some ">>"
  | _ => none

def power (base : Int) (exponent : Nat) : Int :=
  (List.range exponent).foldl (fun n _ => wrap (n * base)) 1

/-- Division goes toward zero, and by zero not at all. -/
def combine (operator : String) (a b : Int) : Calculation Int :=
  match operator with
  | "|" => pure ((BitVec.ofInt 64 a ||| BitVec.ofInt 64 b).toInt)
  | "^" => pure ((BitVec.ofInt 64 a ^^^ BitVec.ofInt 64 b).toInt)
  | "&" => pure ((BitVec.ofInt 64 a &&& BitVec.ofInt 64 b).toInt)
  | "==" => pure (ofBool (a = b))
  | "!=" => pure (ofBool (a ≠ b))
  | "<" => pure (ofBool (a < b))
  | "<=" => pure (ofBool (a ≤ b))
  | ">" => pure (ofBool (a > b))
  | ">=" => pure (ofBool (a ≥ b))
  | "<<" => pure (wrap (a * twoTo (b % 64).toNat))
  | ">>" => pure (a.fdiv (twoTo (b % 64).toNat))
  | "+" => pure (wrap (a + b))
  | "-" => pure (wrap (a - b))
  | "*" => pure (wrap (a * b))
  | "/" => if b = 0 then fail "division by zero" else pure (wrap (a.tdiv b))
  | "%" => if b = 0 then fail "division by zero" else pure (a.tmod b)
  | "**" => if b < 0 then fail "exponent less than 0" else pure (power a b.toNat)
  | _ => pure 0

structure Setting where
  extended : Bool
  text : String → Option String

def current (s : Setting) (name : String) : Calculation Int := do
  match (← get).assigned.lookup name with
  | some n => return n
  | none =>
    let text := (s.text name).getD ""
    match valueOf? text with
    | some n => return n
    | none => if s.extended then return 0 else throw (.noNumber text)

def assign (name : String) (n : Int) : Calculation Unit :=
  modify fun p => { p with assigned := (name, n) :: p.assigned }

def stepBy (s : Setting) (counts : Bool) (name : String) (d : Int) (isOld : Bool) :
    Calculation Int := do
  if !counts then return 0
  let n ← current s name
  assign name (wrap (n + d))
  return if isOld then n else wrap (n + d)

mutual

/-- An operand; `counts` says whether its value matters. -/
def primary (s : Setting) : Nat → Bool → Calculation Int
  | 0, _ => fail "expecting primary"
  | fuel + 1, counts => do
    match ← peek with
    | some (.operator "(") =>
      skip
      let n ← expression s fuel counts
      if ← takes ")" then return n else fail "expecting ')'"
    | some (.number n) =>
      skip
      return n
    | some (.name name) =>
      skip
      if s.extended then
        if ← takes "++" then return ← stepBy s counts name 1 true
        if ← takes "--" then return ← stepBy s counts name (-1) true
      if counts then current s name else return 0
    | some (.operator "+") =>
      skip
      primary s fuel counts
    | some (.operator "-") =>
      skip
      return wrap (-(← primary s fuel counts))
    | some (.operator "!") =>
      skip
      return ofBool ((← primary s fuel counts) = 0)
    | some (.operator "~") =>
      skip
      return -(← primary s fuel counts) - 1
    | some (.operator "++") =>
      skip
      match ← peek with
      | some (.name name) =>
        skip
        stepBy s counts name 1 false
      | _ => primary s fuel counts
    | some (.operator "--") =>
      skip
      match ← peek with
      | some (.name name) =>
        skip
        stepBy s counts name (-1) false
      | _ => primary s fuel counts
    | _ => fail "expecting primary"

def operations (s : Setting) : Nat → Bool → Nat → Int → Calculation Int
  | 0, _, _, a => return a
  | fuel + 1, counts, limit, a => do
    match ← peek with
    | some (.operator o) =>
      match precedence? o with
      | some p =>
        if p > limit then
          skip
          let b ← primary s fuel counts
          let b ← operations s fuel counts (if o == "**" then p - 1 else p) b
          let n ← if counts then combine o a b else pure b
          operations s fuel counts limit n
        else return a
      | none => return a
    | _ => return a

def conjunction (s : Setting) : Nat → Bool → Calculation Int
  | 0, _ => fail "expecting primary"
  | fuel + 1, counts => do
    let a ← primary s fuel counts
    let a ← operations s fuel counts 0 a
    if ← takes "&&" then
      let b ← conjunction s fuel (counts && a != 0)
      return ofBool (a ≠ 0 && b ≠ 0)
    else return a

def disjunction (s : Setting) : Nat → Bool → Calculation Int
  | 0, _ => fail "expecting primary"
  | fuel + 1, counts => do
    let a ← conjunction s fuel counts
    if ← takes "||" then
      let b ← disjunction s fuel (counts && a == 0)
      return ofBool (a ≠ 0 || b ≠ 0)
    else return a

def conditional (s : Setting) : Nat → Bool → Calculation Int
  | 0, _ => fail "expecting primary"
  | fuel + 1, counts => do
    let a ← disjunction s fuel counts
    if ← takes "?" then
      let b ← expression s fuel (counts && a != 0)
      if ← takes ":" then
        let c ← conditional s fuel (counts && a == 0)
        return if a ≠ 0 then b else c
      else fail "expecting ':'"
    else return a

def expression (s : Setting) : Nat → Bool → Calculation Int
  | 0, _ => fail "expecting primary"
  | fuel + 1, counts => do
    match (← get).tokens with
    | .name name :: .operator o :: rest =>
      match assignment? o with
      | some combined =>
        modify ({ · with tokens := rest })
        let n ← expression s fuel counts
        if counts then
          let n ← match combined with
            | some o => do combine o (← current s name) n
            | none => pure n
          assign name n
          return n
        else return n
      | none => conditional s fuel counts
    | _ => conditional s fuel counts

end

/-- Expressions with commas between them; the value is the one of the last. -/
def sequence (s : Setting) : Nat → Calculation Int
  | 0 => fail "expecting primary"
  | fuel + 1 => do
    let n ← expression s (fuel + 1) true
    if ← takes "," then sequence s fuel else return n

/-- The value of a text, and the variables that it assigns, the first one first. -/
def evaluate (s : Setting) (source : String) : Except Fault (Int × List (String × Int)) := do
  let tokens := scan s.extended (source.length + 1) source.toList
  if s.extended && tokens.isEmpty then return (0, [])
  let (n, p) ← (sequence s (8 * tokens.length + 8)).run { tokens }
  if p.tokens.isEmpty then return (n, p.assigned.reverse)
  else throw (.malformed "expecting EOF")

end Remedy.Shell.Arithmetic
