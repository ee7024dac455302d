import Remedy.Json.Basic

namespace Remedy.Json.Reader

/-- A text whose `none`s are the places where octets spell no character. -/
abbrev Input := List (Option Char)

def ofString (s : String) : Input := s.toList.map some

def isSpace (c : Option Char) : Bool :=
  c == some ' ' || c == some '\t' || c == some '\n' || c == some '\r'

def skipSpace (input : Input) : Input := input.dropWhile isSpace

def digit? : Option Char → Option Nat
  | some c => if '0' ≤ c ∧ c ≤ '9' then some (c.toNat - 48) else none
  | none => none

def digits : Input → List Nat × Input
  | [] => ([], [])
  | c :: rest =>
    match digit? c with
    | some d => let (ds, rest) := digits rest; (d :: ds, rest)
    | none => ([], c :: rest)

def digits? (input : Input) : Option (List Nat × Input) :=
  match digits input with
  | ([], _) => none
  | found => some found

def fraction? : Input → Option (Option (List Nat) × Input)
  | some '.' :: rest => (digits? rest).map fun (ds, rest) => (some ds, rest)
  | input => some (none, input)

def signedDigits? : Input → Option ((Bool × List Nat) × Input)
  | some '+' :: rest => (digits? rest).map fun (ds, rest) => ((false, ds), rest)
  | some '-' :: rest => (digits? rest).map fun (ds, rest) => ((true, ds), rest)
  | input => (digits? input).map fun (ds, rest) => ((false, ds), rest)

def exponent? : Input → Option (Option (Bool × List Nat) × Input)
  | some 'e' :: rest | some 'E' :: rest =>
    (signedDigits? rest).map fun (e, rest) => (some e, rest)
  | input => some (none, input)

def number? (input : Input) : Option (NumberLiteral × Input) := do
  let (negative, input) :=
    match input with
    | some '-' :: rest => (true, rest)
    | _ => (false, input)
  let (whole, input) ← digits? input
  guard (whole.length = 1 ∨ whole.head? ≠ some 0)
  let (fraction, input) ← fraction? input
  let (exponent, input) ← exponent? input
  return (⟨negative, whole, fraction, exponent⟩, input)

/-- One piece of a string: a character or a gap, or a unit of 16 bits that an escape gives. -/
inductive Piece where
  | char (c : Option Char)
  | unit (n : Nat)
deriving DecidableEq, Repr

def hexDigit? : Option Char → Option Nat
  | some c =>
    if '0' ≤ c ∧ c ≤ '9' then some (c.toNat - 48)
    else if 'a' ≤ c ∧ c ≤ 'f' then some (c.toNat - 87)
    else if 'A' ≤ c ∧ c ≤ 'F' then some (c.toNat - 55)
    else none
  | none => none

def simpleEscape? : Option Char → Option Char
  | some '"' => some '"'
  | some '\\' => some '\\'
  | some '/' => some '/'
  | some 'b' => some '\x08'
  | some 'f' => some '\x0c'
  | some 'n' => some '\n'
  | some 'r' => some '\r'
  | some 't' => some '\t'
  | _ => none

def pieces? : Input → Option (List Piece × Input)
  | [] => none
  | some '"' :: rest => some ([], rest)
  | some '\\' :: some 'u' :: a :: b :: c :: d :: rest => do
    let n := 4096 * (← hexDigit? a) + 256 * (← hexDigit? b) + 16 * (← hexDigit? c) + (← hexDigit? d)
    let (ps, rest) ← pieces? rest
    return (.unit n :: ps, rest)
  | some '\\' :: e :: rest => do
    let c ← simpleEscape? e
    let (ps, rest) ← pieces? rest
    return (.char (some c) :: ps, rest)
  | some '\\' :: [] => none
  | c :: rest => do
    guard (c.all (' ' ≤ ·))
    let (ps, rest) ← pieces? rest
    return (.char c :: ps, rest)

/-- The text that pieces spell; units beyond the basic plane come in pairs. -/
def spell? : List Piece → Option (List Char)
  | [] => some []
  | .char c :: rest => do return (← c) :: (← spell? rest)
  | .unit high :: .unit low :: rest =>
    if 0xD800 ≤ high ∧ high < 0xDC00 then
      if 0xDC00 ≤ low ∧ low < 0xE000 then
        (spell? rest).map (Char.ofNat (0x10000 + (high - 0xD800) * 1024 + (low - 0xDC00)) :: ·)
      else none
    else if 0xDC00 ≤ high ∧ high < 0xE000 then none
    else (spell? (.unit low :: rest)).map (Char.ofNat high :: ·)
  | .unit n :: rest =>
    if 0xD800 ≤ n ∧ n < 0xE000 then none else (spell? rest).map (Char.ofNat n :: ·)

def string? (input : Input) : Option (Option String × Input) :=
  (pieces? input).map fun (ps, rest) => ((spell? ps).map String.ofList, rest)

def keyword? (word : String) (value : Json) (input : Input) : Option (Json × Input) :=
  let cs := word.toList.map some
  if cs.isPrefixOf input then some (value, input.drop cs.length) else none

def maxDepth : Nat := 127

/-- An object of members of which some may have an unreadable name. -/
def objectOf (members : List (Option String × Json)) : Json :=
  match members.mapM fun (name, v) => name.map (·, v) with
  | some members => .object members
  | none => .unreadable

def within (depth : Nat) (j : Json) : Json := if depth < maxDepth then j else .unreadable

mutual

def value? : Nat → Nat → Input → Option (Json × Input)
  | 0, _, _ => none
  | fuel + 1, depth, input =>
    match skipSpace input with
    | some 'n' :: rest => keyword? "ull" .null rest
    | some 't' :: rest => keyword? "rue" (.bool true) rest
    | some 'f' :: rest => keyword? "alse" (.bool false) rest
    | some '"' :: rest => (string? rest).map fun (s, rest) => (s.elim .unreadable .string, rest)
    | some '[' :: rest => do
      match skipSpace rest with
      | some ']' :: rest => return (within depth (.array []), rest)
      | _ =>
        let (items, rest) ← items? fuel (depth + 1) rest
        return (within depth (.array items), rest)
    | some '{' :: rest => do
      match skipSpace rest with
      | some '}' :: rest => return (within depth (.object []), rest)
      | _ =>
        let (members, rest) ← members? fuel (depth + 1) rest
        return (within depth (objectOf members), rest)
    | input => (number? input).map fun (l, rest) => (l.number?.elim .unreadable .number, rest)

def items? : Nat → Nat → Input → Option (List Json × Input)
  | 0, _, _ => none
  | fuel + 1, depth, input => do
    let (v, rest) ← value? fuel depth input
    match skipSpace rest with
    | some ',' :: rest =>
      let (vs, rest) ← items? fuel depth rest
      return (v :: vs, rest)
    | some ']' :: rest => return ([v], rest)
    | _ => none

def members? : Nat → Nat → Input → Option (List (Option String × Json) × Input)
  | 0, _, _ => none
  | fuel + 1, depth, input => do
    match skipSpace input with
    | some '"' :: rest =>
      let (name, rest) ← string? rest
      match skipSpace rest with
      | some ':' :: rest =>
        let (v, rest) ← value? fuel depth rest
        match skipSpace rest with
        | some ',' :: rest =>
          let (vs, rest) ← members? fuel depth rest
          return ((name, v) :: vs, rest)
        | some '}' :: rest => return ([(name, v)], rest)
        | _ => none
      | _ => none
    | _ => none

end

def text? (input : Input) : Option Json := do
  let (j, rest) ← value? (2 * input.length + 2) 0 input
  guard (skipSpace rest).isEmpty
  return j

end Remedy.Json.Reader

namespace Remedy.Json

def ofText? (s : String) : Option Json := Reader.text? (Reader.ofString s)

end Remedy.Json
