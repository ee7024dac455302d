import Remedy.Text.Directive
import Remedy.Tool.Input

namespace Remedy.Tool.Numbers

open Decimal

structure Operand where
  value : Quantity
  width : Nat
  /-- How many digits stand behind the point; unknown for numbers that are not decimal. -/
  precision : Option Nat

def operand? (s : String) : Option Operand := do
  let cs := s.toList.dropWhile fun c => c == ' ' || ('\t' ≤ c && c ≤ '\r') || c == '+'
  let (value, rest) ← Quantity.read? cs
  guard rest.isEmpty
  let lower := cs.map Char.toLower
  let hasPoint := cs.contains '.'
  if lower.contains 'x' || (match value with | .ratio .. => false | _ => true) then
    return { value, width := cs.length, precision := if hasPoint then none else some 0 }
  else
    let mantissa := lower.takeWhile (· ≠ 'e')
    let front := mantissa.takeWhile (· ≠ '.')
    let fraction := mantissa.length - front.length - 1
    let bare := !(front.getLast?.any Char.isDigit)
    let width : Int := if !hasPoint then mantissa.length
      else if fraction = 0 then (mantissa.length : Int) - 1
      else mantissa.length + if bare then 1 else 0
    let precision := if hasPoint then fraction else 0
    match lower.drop mantissa.length with
    | [] => return { value, width := width.toNat, precision := some precision }
    | _ :: digits =>
      let (e, _) ← Quantity.exponent? digits
      if e < 0 then
        let width := width + e.natAbs + if hasPoint && fraction > 0 then 0 else 1
        return { value, width := width.toNat, precision := some (precision + e.natAbs) }
      else
        let left := precision - e.toNat
        let width := width - (if hasPoint && left = 0 && fraction > 0 then 1 else 0) +
          (e.toNat - min fraction e.toNat : Nat)
        return { value, width := width.toNat, precision := some left }

structure Format where
  before : String
  directive : Text.Directive
  letter : Char
  behind : String

/-- The texts in front of a directive, with percent signs that stand for themselves, and the rest. -/
def plain : List Char → List Char → List Char × Option (List Char)
  | done, [] => (done.reverse, none)
  | done, '%' :: '%' :: rest => plain ('%' :: done) rest
  | done, '%' :: rest => (done.reverse, some rest)
  | done, c :: rest => plain (c :: done) rest

def format? (s : String) : Except String Format :=
  match plain [] s.toList with
  | (_, none) => .error ("format " ++ quotedAlways s ++ " has no % directive")
  | (before, some cs) =>
    let w := Text.Directive.read cs
    let rest := match w.rest with
      | 'L' :: rest => rest
      | rest => rest
    match rest with
    | [] => .error ("format " ++ quotedAlways s ++ " ends in %")
    | letter :: rest =>
      if !"aefgAEFG".toList.contains letter then
        .error ("format " ++ quotedAlways s ++ " has unknown %" ++ String.singleton letter ++
          " directive")
      else
        match plain [] rest with
        | (_, some _) => .error ("format " ++ quotedAlways s ++ " has too many % directives")
        | (behind, none) =>
          .ok { before := String.ofList before, directive := w.directive, letter,
                behind := String.ofList behind }

def Format.write (f : Format) (q : Quantity) : String :=
  f.before ++ f.directive.quantity f.letter q ++ f.behind

def defaultFormat (first step last : Operand) (isPadded : Bool) : Format :=
  match first.precision, step.precision, last.precision with
  | some a, some b, some c =>
    let precision := max a b
    let point (from' : Nat) : Int :=
      if from' = 0 && precision > 0 then 1 else if from' > 0 && precision = 0 then -1 else 0
    let firstWidth : Int := (first.width : Int) + precision - a + (if a = 0 then point a else 0)
    let lastWidth : Int := (last.width : Int) + precision - c + point c
    let width := (max firstWidth lastWidth).toNat
    { before := "", letter := 'f', behind := ""
      directive := { hasZeros := isPadded, width := if isPadded then width else 0,
                     precision := some precision } }
  | _, _, _ => { before := "", directive := {}, letter := 'g', behind := "" }

def fraction : Quantity → Int × Nat
  | .ratio negative num den => (if negative then -(num : Int) else num, den)
  | _ => (0, 1)

def isRatio : Quantity → Bool
  | .ratio .. => true
  | _ => false

/-- Prints numbers from `n` on, in units of one over `den`, up to `bound`. -/
def count (f : Format) (separator : String) (den : Nat) (step : Int) (bound : Option Int) :
    Nat → Int → Tool Unit
  | 0, _ => pure ()
  | fuel + 1, n => do
    let isOver := bound.any fun b => if step < 0 then n < b else b < n
    if isOver then put "\n"
    else
      put (separator ++ f.write (.ratio (n < 0) n.natAbs den))
      count f separator den step bound fuel (n + step)

def seq (words : List String) : Tool Unit := do
  -- a number may begin with a sign
  let isNumber (w : String) : Bool := match w.toList with
    | '-' :: c :: _ => c.isDigit || c == '.'
    | _ => false
  let options := words.takeWhile (!isNumber ·)
  let rest := words.drop options.length
  let g ← given [opt 'f' "format" .argument, opt 's' "separator" .argument, opt 'w' "equal-width"]
    (options ++ if rest.isEmpty || options.contains "--" then rest else "--" :: rest) true
  let operands := g.operands.filter (· ≠ "--")
  demand { g with operands } 1
  bound { g with operands } 3
  let operands ← operands.mapM fun s => do
    match operand? s with
    | some o =>
      match o.value with
      | .undefined _ => refuse 1 ("invalid 'not-a-number' argument: " ++ quotedAlways s)
      | _ => return o
    | none => refuse 1 ("invalid floating point argument: " ++ quotedAlways s)
  let one : Operand := { value := .ofInt 1, width := 1, precision := some 0 }
  let (first, step, last) := match operands with
    | [last] => (one, one, last)
    | [first, last] => (first, one, last)
    | first :: step :: last :: _ => (first, step, last)
    | [] => (one, one, one)
  if operands.length = 3 && (fraction step.value).1 = 0 && isRatio step.value then
    refuse 1 ("invalid Zero increment value: " ++ quotedAlways (g.operands.getD 1 ""))
  let f ← match g.argument? "f" with
    | some s =>
      match format? s with
      | .error message => fail 1 message
      | .ok f =>
        if g.has "w" then
          refuse 1 "format string may not be specified when printing equal width strings"
        pure f
    | none => pure (defaultFormat first step last (g.has "w"))
  let separator := (g.argument? "s").getD "\n"
  let (a, p) := fraction first.value
  let (b, q) := fraction step.value
  let (c, r) := fraction last.value
  let den := p * q * r
  let start := a * (q * r : Nat)
  let step := b * (p * r : Nat)
  let finish : Option Int := match last.value with
    | .infinite negative => if negative = (step < 0) then none else some start
    | _ => some (c * (p * q : Nat))
  let isOver := finish.any fun b => if step < 0 then start < b else b < start
  unless isOver do
    put (f.write first.value)
    count f separator den step finish Unix.Act.limit (start + step)

def factors : Nat → Nat → Nat → List Nat
  | 0, n, _ => [n]
  | fuel + 1, n, d =>
    if n < 2 then []
    else if d * d > n then [n]
    else if n % d = 0 then d :: factors fuel (n / d) d
    else factors fuel n (if d = 2 then 3 else d + 2)

def factored (withPowers : Bool) (n : Nat) : String :=
  let all := factors 5000000 n 2
  let shown := if withPowers then
      (all.foldr (fun p groups => match groups with
        | (q, k) :: rest => if q = p then (q, k + 1) :: rest else (p, 1) :: groups
        | [] => [(p, 1)]) ([] : List (Nat × Nat))).map fun (p, k) =>
          if k = 1 then toString p else toString p ++ "^" ++ toString k
    else all.map toString
  toString n ++ ":" ++ String.join (shown.map (" " ++ ·))

def factor (words : List String) : Tool Unit := do
  let g ← given [opt 'h' "exponents"] words
  let one (w : String) : Tool Unit := do
    let bare := if w.startsWith "+" then String.ofList (w.toList.drop 1) else w
    match natural? bare with
    | some n => putLine (factored (g.has "h") n)
    | none =>
      complain (quotedAlways w ++ " is not a valid positive integer")
      note 1
  if g.operands.isEmpty then
    foldLines (Input.ofPaths []) () fun _ line _ => do
      let words := (line.map fun c => if c == '\t' then ' ' else c).splitOn " "
      (words.filter (· ≠ "")).forM one
      return some ()
  else g.operands.forM one

def catalogue : List (String × (List String → Tool Unit)) := [
  ("seq", seq),
  ("factor", factor)]

end Remedy.Tool.Numbers
