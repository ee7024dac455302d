import Remedy.Tool.Basic

namespace Remedy.Tool

structure Amount where
  unit : Nat := 1024
  scales : Bool := false
  base : Nat := 1024
  tellsPower : Bool := false
  tellsOctets : Bool := false
deriving DecidableEq, Repr

namespace Amount

def octets : Amount := { unit := 1 }

def human (base : Nat) : Amount := { unit := 1, scales := true, base, tellsPower := true }

def powers : List Char := ['K', 'M', 'G', 'T', 'P', 'E', 'Z', 'Y', 'R', 'Q']

def letter (a : Amount) (power : Nat) : String :=
  if power = 0 then ""
  else if power = 1 && a.base ≠ 1024 then "k"
  else (powers[power - 1]?).elim "" String.singleton

def powerOf (a : Amount) : Nat :=
  let rec go : Nat → Nat → Nat → Nat
    | 0, power, _ => power
    | n + 1, power, value => if value < a.unit then go n (power + 1) (value * a.base) else power
  go powers.length 0 1

def greatestPower (a : Amount) (n : Nat) : Nat :=
  let rec go : Nat → Nat → Nat → Nat
    | 0, power, _ => power
    | k + 1, power, value =>
      if value * a.base ≤ n then go k (power + 1) (value * a.base) else power
  go powers.length 0 1

def ceilDiv (n m : Nat) : Nat := (n + m - 1) / max 1 m

def write (a : Amount) (n : Nat) : String :=
  let (digits, power) :=
    if !a.scales then (toString (ceilDiv n a.unit), a.powerOf)
    else
      let power := a.greatestPower n
      let unit := Nat.pow a.base power
      let tenths := ceilDiv (10 * n) unit
      if power > 0 && n < 10 * unit && tenths < 100 then
        (toString (tenths / 10) ++ "." ++ toString (tenths % 10), power)
      else
        let whole := ceilDiv n unit
        if whole = a.base && power < powers.length then ("1.0", power + 1)
        else (toString whole, power)
  if !a.tellsPower then digits
  else
    digits ++ a.letter power ++
      (if a.tellsOctets then (if a.base = 1024 && power > 0 then "iB" else "B") else "")

def read (text : String) : Except Misread Amount :=
  let text := if text.startsWith "'" then String.ofList (text.toList.drop 1) else text
  if text != "" && "human-readable".startsWith text then .ok (human 1024)
  else if text != "" && "si".startsWith text then .ok (human 1000)
  else do
    let n ← sized "eEgGkKmMpPtTyYzZRQ0" text
    if n = 0 then .error .malformed
    else if text.toList.any Char.isDigit then .ok { unit := n }
    else
      let isOctets := text.endsWith "B"
      let isBinary := !isOctets || text.endsWith "iB"
      .ok { unit := n, base := if isBinary then 1024 else 1000, tellsPower := true
            tellsOctets := isOctets }

/-- The first unit that one of some variables names; `none` if none of them is set. -/
def ofVariables (environment : List (String × String)) (names : List String) :
    Option Amount :=
  (names.findSome? fun name => environment.lookup name).map fun text =>
    ((read text).toOption).getD {}

end Amount

end Remedy.Tool
