import Remedy.Decimal.Shortest

namespace Remedy.Json

open Decimal

inductive Number where
  | integer (n : Int)
  | real (x : Binary64)
deriving DecidableEq, Repr

structure NumberLiteral where
  negative : Bool
  whole : List Nat
  fraction : Option (List Nat)
  exponent : Option (Bool × List Nat)
deriving DecidableEq, Repr

/-- Appends digits to `n` as long as the result is below `bound`; the second part counts the
digits from the first that does not fit on. -/
def appendDigits (bound n : Nat) : List Nat → Nat × Nat
  | [] => (n, 0)
  | d :: ds => if n * 10 + d < bound then appendDigits bound (n * 10 + d) ds else (n, ds.length + 1)

namespace NumberLiteral

/-- A literal without point and exponent that fits 64 bits, with a sign or without. -/
def integer? (l : NumberLiteral) : Option Int :=
  match l.fraction, l.exponent with
  | none, none =>
    let (n, dropped) := appendDigits (twoTo 64) 0 l.whole
    if dropped ≠ 0 then none
    else if l.negative then if n = 0 ∨ n > twoTo 63 then none else some (-n)
    else some n
  | _, _ => none

/-- The magnitude of a literal: the leading digits that fit 64 bits, scaled by the power of ten
that the point and the exponent leave. Only its range can fail. -/
def magnitude? (l : NumberLiteral) : Option Binary64 :=
  let (n, dropped) := appendDigits (twoTo 64) 0 l.whole
  let fraction := l.fraction.getD []
  let (n, unused) := appendDigits (twoTo 64) n fraction
  let scale : Int := dropped - (fraction.length - unused : Nat)
  match l.exponent with
  | none => Binary64.ofScaled? n scale
  | some (negative, digits) =>
    let (e, excess) := appendDigits (twoTo 31) 0 digits
    if excess ≠ 0 then if n = 0 ∨ negative then some Binary64.zero else none
    else Binary64.ofScaled? n (if negative then scale - e else scale + e)

def number? (l : NumberLiteral) : Option Number :=
  match l.integer? with
  | some n => some (.integer n)
  | none => l.magnitude?.map fun x => .real (if l.negative then x.neg else x)

end NumberLiteral

namespace Number

/-- Reals are positional from `0.00001` to below `10 ^ 16`. -/
def layout : Layout := ⟨-5, 15⟩

def text : Number → String
  | .integer n => toString n
  | .real x => layout.write x

def nat? (bits : Nat) : Number → Option Nat
  | .integer (.ofNat n) => if n < twoTo bits then some n else none
  | _ => none

end Number

end Remedy.Json
