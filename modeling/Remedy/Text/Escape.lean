namespace Remedy.Text.Escape

/-- Which escapes are known. -/
structure Style where
  longOctal : Bool := false
  octalNeedsZero : Bool := false
  hexadecimal : Bool := false
  stops : Bool := false
  quotes : Bool := false
  universal : Bool := false
  isStrict : Bool := false

inductive Outcome where
  | characters (cs rest : List Char)
  | stop
  | incomplete

def isOctal (c : Char) : Bool := '0' ≤ c && c ≤ '7'

def isHexadecimal (c : Char) : Bool :=
  c.isDigit || ('a' ≤ c && c ≤ 'f') || ('A' ≤ c && c ≤ 'F')

def value (base : Nat) (digits : List Char) : Nat :=
  digits.foldl (fun n c =>
    base * n + (if c.isDigit then c.toNat - 48 else c.toLower.toNat - 87)) 0

def letter? (style : Style) : Char → Option Char
  | 'a' => some '\x07'
  | 'b' => some '\x08'
  | 'e' => some '\x1b'
  | 'f' => some '\x0c'
  | 'n' => some '\n'
  | 'r' => some '\r'
  | 't' => some '\t'
  | 'v' => some '\x0b'
  | '\\' => some '\\'
  | '"' => if style.quotes then some '"' else none
  | _ => none

def universal (n : Nat) : List Char :=
  if n < 128 then [Char.ofNat n]
  else
    let digits := (Nat.toDigits 16 n).map Char.toUpper
    let width := if n < 65536 then 4 else 8
    ['\\', if n < 65536 then 'u' else 'U'] ++
      List.replicate (width - digits.length) '0' ++ digits

def one (style : Style) (cs : List Char) : Outcome :=
  match cs with
  | [] => .characters ['\\'] []
  | c :: rest =>
    if style.stops && c == 'c' then .stop
    else if isOctal c && (!style.octalNeedsZero || c == '0') then
      let start := if c == '0' && style.longOctal then rest else cs
      let digits := (start.take 3).takeWhile isOctal
      .characters [Char.ofNat (value 8 digits % 256)] (start.drop digits.length)
    else if style.hexadecimal && c == 'x' then
      let digits := (rest.take 2).takeWhile isHexadecimal
      if !digits.isEmpty then
        .characters [Char.ofNat (value 16 digits)] (rest.drop digits.length)
      else if style.isStrict then .incomplete
      else .characters ['\\', 'x'] rest
    else if style.universal && (c == 'u' || c == 'U') then
      let width := if c == 'u' then 4 else 8
      let digits := (rest.take width).takeWhile isHexadecimal
      if digits.length < width then .incomplete
      else .characters (universal (value 16 digits)) (rest.drop width)
    else
      match letter? style c with
      | some d => .characters [d] rest
      | none => .characters ['\\', c] rest

inductive Finish where
  | whole
  | stopped
  | broken
deriving DecidableEq, Repr

def replaceIn (style : Style) : Nat → List Char → List Char → List Char × Finish
  | 0, _, done => (done.reverse, .whole)
  | _, [], done => (done.reverse, .whole)
  | fuel + 1, '\\' :: cs, done =>
    match one style cs with
    | .stop => (done.reverse, .stopped)
    | .incomplete => (done.reverse, .broken)
    | .characters out rest => replaceIn style fuel rest (out.reverse ++ done)
  | fuel + 1, c :: cs, done => replaceIn style fuel cs (c :: done)

def replace (style : Style) (s : String) : String × Finish :=
  let cs := s.toList
  let (out, finish) := replaceIn style (cs.length + 1) cs []
  (String.ofList out, finish)

end Remedy.Text.Escape
