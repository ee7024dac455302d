import Remedy.Text.Directive

namespace Remedy.Tool.Records

open Decimal

inductive Value where
  | unset
  | number (x : Float)
  | text (s : String)
  | given (s : String)
deriving Inhabited

def quantity (x : Float) : Quantity :=
  match Quantity.ofFloat x with
  | .undefined _ => .undefined true
  | q => q

def isBlank (c : Char) : Bool := c == ' ' || ('\t' ≤ c && c ≤ '\r')

def isGap (c : Char) : Bool := c == ' ' || c == '\t' || c == '\n'

/-- The number that a text begins with; zero if there is none. -/
def numberIn (s : String) : Float :=
  match Quantity.read? s.toList with
  | some (q, _) => q.toFloat
  | none => 0

/-- The number that a text is as a whole, gaps around it aside. -/
def wholly? (s : String) : Option Float := do
  let cs := s.toList.dropWhile isGap
  let (q, rest) ← if cs.head?.any isBlank then none else Quantity.read? cs
  if rest.all isGap then some q.toFloat else none

def greatest : Int := (twoTo 64 : Nat) - 1

def least : Int := 1 - (twoTo 63 : Nat)

/-- The integral part of a number within the bounds of integers. -/
def truncated (x : Float) : Int :=
  match quantity x with
  | .ratio negative num den =>
    if negative then max least (-(num / den : Nat)) else min greatest (num / den : Nat)
  | .infinite negative => if negative then least else greatest
  | .undefined _ => least - 1

def integer? (x : Float) : Option Int :=
  match quantity x with
  | .ratio negative num den =>
    let n : Nat := num / den
    if num % den ≠ 0 then none
    else if negative then if n ≤ twoTo 63 then some (-(n : Int)) else none
    else if n ≤ twoTo 64 then some (min greatest n)
    else none
  | _ => none

namespace Value

def toNumber : Value → Float
  | .unset => 0
  | .number x => x
  | .text s | .given s => numberIn s

def holds : Value → Bool
  | .unset => false
  | .number x => x != 0
  | .text s => s != ""
  | .given s =>
    match wholly? s with
    | some x => x != 0
    | none => s != ""

def ofBool (b : Bool) : Value := .number (if b then 1 else 0)

def ofNat (n : Nat) : Value := .number n.toFloat

def ofInt (n : Int) : Value := .number (if n < 0 then -n.natAbs.toFloat else n.toNat.toFloat)

end Value

inductive Laid where
  | whole (s : String)
  /-- There are not enough values; what came before is kept. -/
  | lacking (s : String)
  | improper (s : String) (n : Nat)

def isSize (c : Char) : Bool := "hlLqjzt".toList.contains c

/-- An integer without a sign: a negative one wraps around. -/
def unsigned (n : Int) : Nat := if n < 0 then (n + (twoTo 64 : Nat)).toNat else n.toNat

def Value.laidOut? (textOf : Value → String) (d : Text.Directive) (letter : Char) (v : Value) :
    Option String :=
  let code (x : Float) : String := String.singleton (Char.ofNat ((truncated x) % 256).toNat)
  let first (s : String) : String := String.singleton (s.toList.headD '\x00')
  match letter with
  | 'd' | 'i' => some (d.signed (truncated v.toNumber))
  | 'o' | 'x' | 'X' | 'u' => some (d.unsigned letter (unsigned (truncated v.toNumber)))
  | 'e' | 'E' | 'f' | 'F' | 'g' | 'G' | 'a' | 'A' => some (d.quantity letter (quantity v.toNumber))
  | 's' => some (d.text (textOf v))
  | 'c' =>
    some (d.pad (match v with
      | .number x => code x
      | .given s =>
        match wholly? s with
        | some x => code x
        | none => first s
      | .text s => first s
      | .unset => first ""))
  | _ => none

def layOut (textOf : Value → String) : Nat → List Char → List Value → Nat → String → Laid
  | 0, _, _, _, done => .whole done
  | _, [], _, _, done => .whole done
  | fuel + 1, '%' :: '%' :: rest, vs, n, done => layOut textOf fuel rest vs n (done.push '%')
  | fuel + 1, '%' :: cs, vs, n, done =>
    let w := Text.Directive.read cs
    let size (s : Text.Directive.Size) (vs : List Value) : Option (Option Int × List Value) :=
      match s, vs with
      | .operand, v :: vs => some (some (truncated v.toNumber), vs)
      | .operand, [] => none
      | _, vs => some (none, vs)
    match size w.width vs with
    | none => .lacking done
    | some (width, vs) =>
      match size w.precision vs with
      | none => .lacking done
      | some (precision, vs) =>
        let d := width.elim w.directive w.directive.setWidth
        let d := precision.elim d d.setPrecision
        match vs, w.rest.dropWhile isSize with
        | [], _ => .lacking done
        | _, [] => .improper done n
        | v :: vs, letter :: rest =>
          match v.laidOut? textOf d letter with
          | some s => layOut textOf fuel rest vs (n + 1) (done ++ s)
          | none => .improper done n
  | fuel + 1, c :: rest, vs, n, done => layOut textOf fuel rest vs n (done.push c)

def numberText (layout : String) (x : Float) : String :=
  match integer? x with
  | some n => toString n
  | none =>
    match layOut (fun _ => "") (layout.length + 1) layout.toList [.number x] 1 "" with
    | .whole s | .lacking s | .improper s _ => s

def Value.toText (layout : String) : Value → String
  | .unset => ""
  | .number x => numberText layout x
  | .text s | .given s => s

def Value.comparable? : Value → Option Float
  | .unset => some 0
  | .number x => some x
  | .text _ => none
  | .given s => wholly? s

/-- The order of two values: that of numbers if both are, else that of texts. -/
def Value.order (layout : String) (a b : Value) : Ordering :=
  let texts : Ordering := compare (a.toText layout) (b.toText layout)
  match a.comparable?, b.comparable? with
  | some x, some y => if x < y then .lt else if y < x then .gt else .eq
  | _, _ => texts

def remainder (x y : Float) : Float :=
  match Quantity.ofFloat x, Quantity.ofFloat y with
  | .ratio negative a b, .ratio _ c d =>
    if c = 0 then 0 / 0
    else (Quantity.ratio negative (a * d % (c * b)) (b * d)).toFloat
  | .ratio .., .infinite _ => x
  | _, _ => 0 / 0

end Remedy.Tool.Records
