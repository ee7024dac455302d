import Remedy.Decimal.Quantity

namespace Remedy.Text

structure Directive where
  alignsLeft : Bool := false
  hasSign : Bool := false
  hasSpace : Bool := false
  isAlternate : Bool := false
  hasZeros : Bool := false
  width : Nat := 0
  precision : Option Nat := none
deriving DecidableEq, Repr

namespace Directive

def isFlag (c : Char) : Bool := "#-+ 0".toList.contains c

def addFlag (d : Directive) (c : Char) : Directive :=
  match c with
  | '-' => { d with alignsLeft := true }
  | '+' => { d with hasSign := true }
  | ' ' => { d with hasSpace := true }
  | '#' => { d with isAlternate := true }
  | '0' => { d with hasZeros := true }
  | _ => d

def setWidth (d : Directive) (n : Int) : Directive :=
  if n < 0 then { d with alignsLeft := true, width := n.natAbs } else { d with width := n.toNat }

def setPrecision (d : Directive) (n : Int) : Directive :=
  { d with precision := if n < 0 then none else some n.toNat }

def pad (d : Directive) (s : String) : String :=
  let blanks := "".pushn ' ' (d.width - s.length)
  if d.alignsLeft then s ++ blanks else blanks ++ s

def padNumber (d : Directive) (sign digits : String) (zerosAllowed : Bool) : String :=
  if d.hasZeros && zerosAllowed && !d.alignsLeft then
    sign ++ "".pushn '0' (d.width - sign.length - digits.length) ++ digits
  else d.pad (sign ++ digits)

def text (d : Directive) (s : String) : String :=
  d.pad (match d.precision with
    | some n => String.ofList (s.toList.take n)
    | none => s)

def positiveSign (d : Directive) : String :=
  if d.hasSign then "+" else if d.hasSpace then " " else ""

def digits (d : Directive) (s : String) : String :=
  match d.precision with
  | some n =>
    if n = 0 && s == "0" then "" else "".pushn '0' (n - s.length) ++ s
  | none => s

def signed (d : Directive) (n : Int) : String :=
  d.padNumber (if n < 0 then "-" else d.positiveSign) (d.digits (toString n.natAbs))
    d.precision.isNone

def upperCase (s : String) : String := String.ofList (s.toList.map Char.toUpper)

def unsigned (d : Directive) (letter : Char) (n : Nat) : String :=
  let base := if letter == 'o' then 8 else if letter == 'u' then 10 else 16
  let written := d.digits (String.ofList (Nat.toDigits base n))
  let (sign, written) :=
    if d.isAlternate && letter == 'o' && !written.startsWith "0" then ("", "0" ++ written)
    else if d.isAlternate && base = 16 && n ≠ 0 then ("0x", written)
    else ("", written)
  let s := d.padNumber sign written d.precision.isNone
  if letter == 'X' then upperCase s else s

def quantity (d : Directive) (letter : Char) (q : Decimal.Quantity) : String :=
  let sign := if q.isNegative then "-" else d.positiveSign
  let precision := d.precision.getD 6
  let s := match q with
    | .infinite _ => d.padNumber sign "inf" false
    | .undefined _ => d.padNumber sign "nan" false
    | .ratio _ num den =>
      match letter.toLower with
      | 'f' => d.padNumber sign (Decimal.Quantity.fixed num den precision d.isAlternate) true
      | 'e' => d.padNumber sign (Decimal.Quantity.scientific num den precision d.isAlternate) true
      | 'g' => d.padNumber sign (Decimal.Quantity.general num den precision d.isAlternate) true
      | _ => d.padNumber sign (Decimal.Quantity.hexadecimal num den) false
  if letter.isUpper then upperCase s else s

def decimal (cs : List Char) : Nat := cs.foldl (fun n c => 10 * n + (c.toNat - 48)) 0

inductive Size where
  | none
  | given (n : Nat)
  | operand
deriving DecidableEq, Repr

structure Written where
  flags : List Char
  width : Size
  precision : Size
  rest : List Char

def size (cs : List Char) : Size × List Char :=
  match cs with
  | '*' :: rest => (.operand, rest)
  | cs =>
    let digits := cs.takeWhile Char.isDigit
    (if digits.isEmpty then .none else .given (decimal digits), cs.drop digits.length)

def read (cs : List Char) : Written :=
  let flags := cs.takeWhile isFlag
  let (width, rest) := size (cs.drop flags.length)
  match rest with
  | '.' :: rest =>
    let (precision, rest) := size rest
    ⟨flags, width, if precision == .none then .given 0 else precision, rest⟩
  | rest => ⟨flags, width, .none, rest⟩

def Written.directive (w : Written) : Directive :=
  let d := w.flags.foldl addFlag ({} : Directive)
  let d := match w.width with
    | .given n => { d with width := n }
    | _ => d
  match w.precision with
  | .given n => { d with precision := some n }
  | _ => d

end Directive

end Remedy.Text
