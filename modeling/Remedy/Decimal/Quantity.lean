import Remedy.Decimal.Binary64

namespace Remedy.Decimal

inductive Quantity where
  | ratio (negative : Bool) (num den : Nat)
  | infinite (negative : Bool)
  | undefined (negative : Bool)
deriving DecidableEq, Repr

namespace Quantity

def zero : Quantity := .ratio false 0 1

def ofInt (n : Int) : Quantity := .ratio (n < 0) n.natAbs 1

def isNegative : Quantity → Bool
  | .ratio n _ _ | .infinite n | .undefined n => n

def negate : Quantity → Quantity
  | .ratio n a b => .ratio (!n) a b
  | .infinite n => .infinite (!n)
  | .undefined n => .undefined (!n)

def rounded : Quantity → Quantity
  | .ratio negative num den =>
    match Binary64.ofRatio? num den with
    | some x => .ratio negative x.num x.den
    | none => .infinite negative
  | q => q

/-- The nearest number of so many binary digits. -/
def roundedTo (digits : Nat) : Quantity → Quantity
  | .ratio negative num den =>
    if num = 0 ∨ den = 0 then .ratio negative num den
    else
      -- the ratio is below two to the power of `top`, and not below half of that
      let guess : Int := (Nat.log2 num : Int) - Nat.log2 den
      let isBelow (e : Int) : Bool := num * twoTo (-e).toNat < den * twoTo e.toNat
      let top := if isBelow guess then guess else guess + 1
      let shift := (digits : Int) - top
      let n := roundDiv (num * twoTo shift.toNat) (den * twoTo (-shift).toNat)
      .ratio negative (n * twoTo (-shift).toNat) (twoTo shift.toNat)
  | q => q

def ofBits (bits : UInt64) : Quantity :=
  let n := bits.toNat
  let negative := n / twoTo 63 = 1
  let exponent := n / twoTo 52 % 2048
  let fraction := n % twoTo 52
  if exponent = 2047 then if fraction = 0 then .infinite negative else .undefined negative
  else if exponent = 0 then .ratio negative fraction (twoTo 1074)
  else
    let coefficient := twoTo 52 + fraction
    if exponent ≥ 1075 then .ratio negative (coefficient * twoTo (exponent - 1075)) 1
    else .ratio negative coefficient (twoTo (1075 - exponent))

def ofFloat (x : Float) : Quantity := ofBits x.toBits

def toBits : Quantity → UInt64
  | .ratio negative num den =>
    let sign := if negative then twoTo 63 else 0
    match Binary64.ofRatio? num den with
    | some x =>
      let bits :=
        if x.coefficient < twoTo 52 then x.coefficient
        else (x.exponent + 1075).toNat * twoTo 52 + (x.coefficient - twoTo 52)
      UInt64.ofNat (sign + bits)
    | none => UInt64.ofNat (sign + 2047 * twoTo 52)
  | .infinite negative => UInt64.ofNat ((if negative then twoTo 63 else 0) + 2047 * twoTo 52)
  | .undefined negative =>
    UInt64.ofNat ((if negative then twoTo 63 else 0) + 2047 * twoTo 52 + twoTo 51)

def toFloat (q : Quantity) : Float := Float.ofBits q.toBits

def digitValue (c : Char) : Nat :=
  if c.isDigit then c.toNat - 48 else c.toLower.toNat - 87

def digitsValue (base : Nat) (digits : List Char) : Nat :=
  digits.foldl (fun n c => base * n + digitValue c) 0

def isHexadecimal (c : Char) : Bool :=
  c.isDigit || ('a' ≤ c && c ≤ 'f') || ('A' ≤ c && c ≤ 'F')

def exponent? (cs : List Char) : Option (Int × List Char) :=
  let (negative, cs) := match cs with
    | '-' :: rest => (true, rest)
    | '+' :: rest => (false, rest)
    | cs => (false, cs)
  let digits := cs.takeWhile Char.isDigit
  if digits.isEmpty then none
  else
    let n := min (digitsValue 10 digits) 100000
    some (if negative then -(n : Int) else n, cs.drop digits.length)

/-- The digits of a number without a sign, in a base, with the exponent of the letter. -/
def unsigned? (base scale : Nat) (isDigit : Char → Bool) (letter : Char) (cs : List Char) :
    Option (Quantity × List Char) :=
  let whole := cs.takeWhile isDigit
  let rest := cs.drop whole.length
  let (fraction, rest) := match rest with
    | '.' :: behind =>
      let fraction := behind.takeWhile isDigit
      if whole.isEmpty && fraction.isEmpty then ([], rest)
      else (fraction, behind.drop fraction.length)
    | rest => ([], rest)
  if whole.isEmpty && fraction.isEmpty then none
  else
    let n := digitsValue base (whole ++ fraction)
    let den := Nat.pow base fraction.length
    let (e, rest) := match rest with
      | c :: behind =>
        if c.toLower == letter then (exponent? behind).getD (0, rest) else (0, rest)
      | [] => (0, rest)
    some (.ratio false (n * Nat.pow scale e.toNat) (den * Nat.pow scale (-e).toNat), rest)

def startsWithIgnoringCase (cs : List Char) (s : String) : Bool :=
  s.toList.isPrefixOf ((cs.take s.length).map Char.toLower)

/-- The number at the beginning of a text, behind blanks and a sign, and what follows it. -/
def read? (cs : List Char) : Option (Quantity × List Char) :=
  let isBlank (c : Char) : Bool := c == ' ' || ('\t' ≤ c && c ≤ '\r')
  let cs := cs.dropWhile isBlank
  let (negative, cs) := match cs with
    | '-' :: rest => (true, rest)
    | '+' :: rest => (false, rest)
    | cs => (false, cs)
  let found : Option (Quantity × List Char) :=
    if startsWithIgnoringCase cs "infinity" then some (.infinite false, cs.drop 8)
    else if startsWithIgnoringCase cs "inf" then some (.infinite false, cs.drop 3)
    else if startsWithIgnoringCase cs "nan" then some (.undefined false, cs.drop 3)
    else
      match cs with
      | '0' :: x :: rest =>
        if x == 'x' || x == 'X' then
          match unsigned? 16 2 isHexadecimal 'p' rest with
          | some found => some found
          | none => some (zero, x :: rest)
        else unsigned? 10 10 Char.isDigit 'e' cs
      | _ => unsigned? 10 10 Char.isDigit 'e' cs
  found.map fun (q, rest) => (if negative then q.negate else q, rest)

/-- The order of quantities; what is no number comes first. -/
def lt : Quantity → Quantity → Bool
  | .undefined _, .undefined _ => false
  | .undefined _, _ => true
  | _, .undefined _ => false
  | .infinite a, .infinite b => a && !b
  | .infinite a, _ => a
  | _, .infinite b => !b
  | .ratio m a b, .ratio n c d =>
    let left : Int := if m then -(a * d : Nat) else (a * d : Nat)
    let right : Int := if n then -(c * b : Nat) else (c * b : Nat)
    left < right

def zeros (n : Nat) : String := "".pushn '0' n

def padded (n width : Nat) : String :=
  let digits := toString n
  zeros (width - digits.length) ++ digits

/-- A magnitude with so many digits behind the point; `keepsPoint` writes the point in any case. -/
def fixed (num den precision : Nat) (keepsPoint : Bool) : String :=
  let n := roundDiv (num * tenTo precision) den
  let whole := toString (n / tenTo precision)
  if precision = 0 then whole ++ (if keepsPoint then "." else "")
  else whole ++ "." ++ padded (n % tenTo precision) precision

def decimalExponent (num den : Nat) : Int :=
  let guess := Int.fdiv (((Nat.log2 num : Int) - Nat.log2 den) * 30103) 100000
  let reaches (e : Int) : Bool := num * tenTo (-e).toNat ≥ den * tenTo e.toNat
  if reaches (guess + 2) then guess + 2
  else if reaches (guess + 1) then guess + 1
  else if reaches guess then guess
  else if reaches (guess - 1) then guess - 1
  else guess - 2

/-- The digits of a magnitude, one more than `precision`, and its exponent after rounding. -/
def significant (num den precision : Nat) : Nat × Int :=
  if num = 0 then (0, 0)
  else
    let e := decimalExponent num den
    let shift := (precision : Int) - e
    let n := roundDiv (num * tenTo shift.toNat) (den * tenTo (-shift).toNat)
    if n ≥ tenTo (precision + 1) then (n / 10, e + 1) else (n, e)

def exponentText (e : Int) : String :=
  (if e < 0 then "-" else "+") ++ padded e.natAbs 2

def scientific (num den precision : Nat) (keepsPoint : Bool) : String :=
  let (n, e) := significant num den precision
  let digits := padded n (precision + 1)
  let fraction := String.ofList (digits.toList.drop 1)
  String.ofList (digits.toList.take 1) ++
    (if fraction = "" then (if keepsPoint then "." else "") else "." ++ fraction) ++
    "e" ++ exponentText e

def withoutTrailingZeros (s : String) : String :=
  if s.toList.contains '.' then
    let cs := s.toList.reverse.dropWhile (· == '0')
    String.ofList (cs.dropWhile (· == '.')).reverse
  else s

/-- The shorter of the two notations with so many significant digits. -/
def general (num den precision : Nat) (keepsZeros : Bool) : String :=
  let p := if precision = 0 then 1 else precision
  let (_, e) := significant num den (p - 1)
  if e < -4 ∨ e ≥ p then
    let s := scientific num den (p - 1) keepsZeros
    if keepsZeros then s
    else
      let mantissa := s.toList.takeWhile (· ≠ 'e')
      withoutTrailingZeros (String.ofList mantissa) ++ String.ofList (s.toList.drop mantissa.length)
  else
    let s := fixed num den (p - 1 - e).toNat keepsZeros
    if keepsZeros then s else withoutTrailingZeros s

def hexadecimal (num den : Nat) : String :=
  if num = 0 then "0x0p+0"
  else
    match Binary64.ofRatio? num den with
    | none => "inf"
    | some x =>
      let shift := 52 - Nat.log2 x.coefficient
      let coefficient := x.coefficient * twoTo shift
      let e := x.exponent + 52 - shift
      let digits := (Nat.toDigits 16 (coefficient % twoTo 52))
      let fraction := List.replicate (13 - digits.length) '0' ++ digits
      let fraction := (fraction.reverse.dropWhile (· == '0')).reverse
      "0x1" ++ (if fraction.isEmpty then "" else "." ++ String.ofList fraction) ++
        "p" ++ (if e < 0 then "-" else "+") ++ toString e.natAbs

end Quantity

end Remedy.Decimal
