import Remedy.Decimal.Binary64

namespace Remedy.Decimal

structure Scaled where
  digits : Nat
  exponent : Int
deriving DecidableEq, Repr

namespace Binary64

/-- The numbers that round to `x`, in quarters of its last place; the ends belong to them iff the
coefficient is even. -/
def lowerQuarter (x : Binary64) : Nat :=
  4 * x.coefficient - (if x.coefficient = twoTo 52 ∧ x.exponent > -1074 then 1 else 2)

def upperQuarter (x : Binary64) : Nat := 4 * x.coefficient + 2

def roundsFrom (x : Binary64) (t : Int) (n : Nat) : Bool :=
  let place := x.exponent - 2
  let point := n * tenTo t.toNat * twoTo (-place).toNat
  let quarter := twoTo place.toNat * tenTo (-t).toNat
  if x.coefficient % 2 = 0 then
    x.lowerQuarter * quarter ≤ point && point ≤ x.upperQuarter * quarter
  else
    x.lowerQuarter * quarter < point && point < x.upperQuarter * quarter

/-- The nearest multiple of `10 ^ t` that rounds to `x`, among the two neighbours of `x`. -/
def nearestOn? (x : Binary64) (t : Int) : Option Nat :=
  let num := x.num * tenTo (-t).toNat
  let den := x.den * tenTo t.toNat
  let below := num / den
  let nearer := roundDiv num den
  let farther := if nearer = below then below + 1 else below
  if x.roundsFrom t nearer then some nearer
  else if x.roundsFrom t farther then some farther
  else none

/-- The coarsest of the grids `10 ^ t`, `10 ^ (t - 1)`, … that has a number rounding to `x`. -/
def firstOn (x : Binary64) : Nat → Int → Scaled
  | 0, t => ⟨(x.nearestOn? t).getD 0, t⟩
  | steps + 1, t =>
    match x.nearestOn? t with
    | some n => ⟨n, t⟩
    | none => x.firstOn steps (t - 1)

def shortest (x : Binary64) : Scaled :=
  let top := Int.fdiv ((Nat.log2 x.coefficient + x.exponent) * 30103) 100000
  x.firstOn 24 (top + 2)

end Binary64

/-- Which decimal exponents are written positionally; all others are written with an exponent. -/
structure Layout where
  leastPositional : Int
  greatestPositional : Int
deriving DecidableEq, Repr

namespace Layout

def positional (digits : String) (exponent : Int) : String :=
  if exponent < 0 then "0." ++ "".pushn '0' (-exponent - 1).toNat ++ digits
  else
    let whole := (digits.toList.take (exponent.toNat + 1))
    let fraction := digits.toList.drop (exponent.toNat + 1)
    String.ofList whole ++ "".pushn '0' (exponent.toNat + 1 - whole.length) ++ "." ++
      (if fraction.isEmpty then "0" else String.ofList fraction)

/-- The scientific notation has no point after a lone digit and always a sign of the exponent. -/
def scientific (digits : String) (exponent : Int) : String :=
  let fraction := String.ofList (digits.toList.drop 1)
  String.ofList (digits.toList.take 1) ++ (if fraction.isEmpty then "" else "." ++ fraction) ++
    "e" ++ (if exponent < 0 then "-" else "+") ++ toString exponent.natAbs

def write (layout : Layout) (x : Binary64) : String :=
  let sign := if x.negative then "-" else ""
  if x.isZero then sign ++ "0.0"
  else
    let d := x.shortest
    let digits := toString d.digits
    let exponent := d.exponent + digits.length - 1
    sign ++
      if layout.leastPositional ≤ exponent ∧ exponent ≤ layout.greatestPositional then
        positional digits exponent
      else scientific digits exponent

end Layout

end Remedy.Decimal
