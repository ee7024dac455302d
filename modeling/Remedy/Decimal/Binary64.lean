import Remedy.Power

namespace Remedy.Decimal

/-- The quotient rounded to the nearest natural number, a half to the even neighbour. -/
def roundDiv (num den : Nat) : Nat :=
  let q := num / den
  let twice := 2 * (num % den)
  if twice < den ∨ (twice = den ∧ q % 2 = 0) then q else q + 1

/-- The number `coefficient * 2 ^ exponent`, with a sign that zero has too. -/
structure Binary64 where
  negative : Bool
  coefficient : Nat
  exponent : Int
deriving DecidableEq, Repr

namespace Binary64

def zero : Binary64 := ⟨false, 0, -1074⟩

def neg (x : Binary64) : Binary64 := { x with negative := !x.negative }

def isZero (x : Binary64) : Bool := x.coefficient == 0

def num (x : Binary64) : Nat := x.coefficient * twoTo x.exponent.toNat

def den (x : Binary64) : Nat := twoTo (-x.exponent).toNat

/-- The nearest number to a ratio, a tie to the even coefficient; `none` beyond the range. -/
def ofRatio? (num den : Nat) : Option Binary64 :=
  if num = 0 then some zero
  else
    let guess : Int := (Nat.log2 num : Int) - Nat.log2 den
    let isBelow := num * twoTo (-guess).toNat < den * twoTo guess.toNat
    let top := if isBelow then guess - 1 else guess
    let exponent := max (-1074) (top - 52)
    let coefficient := roundDiv (num * twoTo (-exponent).toNat) (den * twoTo exponent.toNat)
    let rounded : Binary64 :=
      if coefficient = twoTo 53 then ⟨false, twoTo 52, exponent + 1⟩
      else ⟨false, coefficient, exponent⟩
    if rounded.exponent > 971 then none else some rounded

def timesPowerOfTen? (x : Binary64) (k : Nat) : Option Binary64 := do
  let p ← ofRatio? (tenTo k) 1
  ofRatio? (x.num * p.num) (x.den * p.den)

def overPowerOfTen? (x : Binary64) (k : Nat) : Option Binary64 := do
  let p ← ofRatio? (tenTo k) 1
  ofRatio? (x.num * p.den) (x.den * p.num)

def maxPowerOfTen : Nat := 308

def overLargePowerOfTen? (x : Binary64) (k : Nat) : Option Binary64 :=
  if k ≤ maxPowerOfTen then x.overPowerOfTen? k
  else if x.isZero then some x
  else do (← x.overPowerOfTen? maxPowerOfTen).overLargePowerOfTen? (k - maxPowerOfTen)
termination_by k
decreasing_by all_goals (simp only [maxPowerOfTen] at *; omega)

/-- The coefficient times a power of ten: the coefficient is rounded, then scaled once. -/
def ofScaled? (coefficient : Nat) (exponent : Int) : Option Binary64 := do
  let x ← ofRatio? coefficient 1
  if 0 ≤ exponent then
    if exponent.toNat ≤ maxPowerOfTen then x.timesPowerOfTen? exponent.toNat
    else if x.isZero then some x
    else none
  else x.overLargePowerOfTen? (-exponent).toNat

end Binary64

end Remedy.Decimal
