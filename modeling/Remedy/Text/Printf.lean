import Remedy.Text.Directive
import Remedy.Text.Escape

namespace Remedy.Text.Printf

structure Style where
  noNumber : String → String
  notWhole : String → String
  outOfRange : String → String
  invalid : String → String
  invalidStatus : Nat
  unfinished : String → String
  formatEscapes : Escape.Style
  operandEscapes : Escape.Style
  quoted : Option (String → String) := none
  skipsSizes : Bool := false
  /-- Whether quantities are rounded to binary64 numbers; else to those of 64 binary digits. -/
  isRounded : Bool := true
  fits : Directive.Written → Char → Bool := fun _ _ => true
  excess : Option (String → String) := none
  incomplete : String := ""

inductive Piece where
  | text (s : String)
  | complaint (s : String)

structure Progress where
  operands : List String
  pieces : List Piece := []
  status : Nat := 0
  isOver : Bool := false
  hasDirective : Bool := false

namespace Progress

def put (p : Progress) (s : String) : Progress := { p with pieces := .text s :: p.pieces }

def warn (p : Progress) (s : String) : Progress := { p with pieces := .complaint s :: p.pieces }

def complain (p : Progress) (s : String) : Progress := { p.warn s with status := 1 }

def next (p : Progress) : Option String × Progress :=
  (p.operands.head?, { p with operands := p.operands.tail, hasDirective := true })

def stop (p : Progress) : Progress := { p with isOver := true }

def text (p : Progress) : String :=
  String.join (p.pieces.reverse.map fun
    | .text s => s
    | .complaint _ => "")

def complaints (p : Progress) : List String :=
  p.pieces.reverse.filterMap fun
    | .text _ => none
    | .complaint s => some s

end Progress

def isBlank (c : Char) : Bool := c == ' ' || ('\t' ≤ c && c ≤ '\r')

def integer? (cs : List Char) : Option (Int × List Char) :=
  let cs := cs.dropWhile isBlank
  let (negative, cs) := match cs with
    | '-' :: rest => (true, rest)
    | '+' :: rest => (false, rest)
    | cs => (false, cs)
  let found : Option (Nat × List Char) :=
    match cs with
    | '0' :: x :: c :: rest =>
      if (x == 'x' || x == 'X') && Escape.isHexadecimal c then
        let digits := (c :: rest).takeWhile Escape.isHexadecimal
        some (Escape.value 16 digits, (c :: rest).drop digits.length)
      else
        let digits := cs.takeWhile Escape.isOctal
        some (Escape.value 8 digits, cs.drop digits.length)
    | '0' :: _ =>
      let digits := cs.takeWhile Escape.isOctal
      some (Escape.value 8 digits, cs.drop digits.length)
    | _ =>
      let digits := cs.takeWhile Char.isDigit
      if digits.isEmpty then none else some (Escape.value 10 digits, cs.drop digits.length)
  found.map fun (n, rest) => (if negative then -(n : Int) else n, rest)

def check (style : Style) (p : Progress) (s : String) (rest : Option (List Char)) : Progress :=
  match rest with
  | none => if s == "" then p else p.complain (style.noNumber s)
  | some [] => p
  | some _ => p.complain (style.notWhole s)

def code? (style : Style) (cs : List Char) (p : Progress) : Option (Nat × Progress) :=
  match cs with
  | '\'' :: c :: rest | '"' :: c :: rest =>
    match style.excess with
    | some say => some (c.toNat, if rest.isEmpty then p else p.warn (say (String.ofList rest)))
    | none => some (c.toNat, p)
  | ['\''] | ['"'] => if style.excess.isSome then none else some (0, p)
  | _ => none

def integerOperand (style : Style) (low high : Int) (p : Progress) : Int × Progress :=
  match p.next with
  | (none, p) => (0, p)
  | (some s, p) =>
    match code? style s.toList p with
    | some (n, p) => (n, p)
    | none =>
      match integer? s.toList with
      | none => (0, check style p s none)
      | some (n, rest) =>
        if n < low ∨ n > high then
          (max low (min high n),
            if rest.isEmpty then p.complain (style.outOfRange s) else check style p s (some rest))
        else (n, check style p s (some rest))

/-- The next operand as a natural number of 64 bits; a negative one wraps around. -/
def naturalOperand (style : Style) (p : Progress) : Nat × Progress :=
  let top : Int := twoTo 64
  let (n, p) := integerOperand style (1 - top) (top - 1) p
  (if n < 0 then (n + top).toNat else n.toNat, p)

def quantityOperand (style : Style) (p : Progress) : Decimal.Quantity × Progress :=
  match p.next with
  | (none, p) => (.zero, p)
  | (some s, p) =>
    match code? style s.toList p with
    | some (n, p) => (.ofInt n, p)
    | none =>
      match Decimal.Quantity.read? s.toList with
      | none => (.zero, check style p s none)
      | some (q, rest) =>
        (if style.isRounded then q.rounded else q.roundedTo 64, check style p s (some rest))

def sized (style : Style) (w : Directive.Written) (p : Progress) : Directive × Progress :=
  let bound : Int := twoTo 31
  let (d, p) := match w.width with
    | .operand =>
      let (n, p) := integerOperand style (-bound) bound p
      (w.directive.setWidth n, p)
    | _ => (w.directive, p)
  match w.precision with
  | .operand =>
    let (n, p) := integerOperand style (-bound) bound p
    (d.setPrecision n, p)
  | _ => (d, p)

def isSize (c : Char) : Bool := "hlLjzt".toList.contains c

def directive (style : Style) (cs : List Char) (p : Progress) : Progress × List Char :=
  let w := Directive.read cs
  let (d, p) := sized style w p
  let rest := if style.skipsSizes then w.rest.dropWhile isSize else w.rest
  let shown := "%" ++ String.ofList (cs.take (cs.length - rest.length))
  let bound : Int := twoTo 63
  match rest with
  | [] =>
    ({ (p.complain (style.unfinished shown)) with status := style.invalidStatus }.stop, [])
  | letter :: after =>
    if !style.fits w letter then (invalid style shown letter p, []) else
    match letter with
    | 'd' | 'i' =>
      let (n, p) := integerOperand style (-bound) (bound - 1) p
      (p.put (d.signed n), after)
    | 'o' | 'u' | 'x' | 'X' =>
      let (n, p) := naturalOperand style p
      (p.put (d.unsigned letter n), after)
    | 'e' | 'E' | 'f' | 'F' | 'g' | 'G' | 'a' | 'A' =>
      let (q, p) := quantityOperand style p
      (p.put (d.quantity letter q), after)
    | 'c' =>
      let (s, p) := p.next
      let c := ((s.getD "").toList.head?).getD '\x00'
      (p.put (d.pad (String.singleton c)), after)
    | 's' =>
      let (s, p) := p.next
      (p.put (d.text (s.getD "")), after)
    | 'b' =>
      let (s, p) := p.next
      let (text, finish) := Escape.replace style.operandEscapes (s.getD "")
      let p := p.put (d.text text)
      (match finish with
      | .whole => p
      | .stopped => p.stop
      | .broken => (p.complain style.incomplete).stop, after)
    | 'q' =>
      match style.quoted with
      | some quote =>
        let (s, p) := p.next
        (p.put (d.text (quote (s.getD ""))), after)
      | none => (invalid style shown letter p, [])
    | _ => (invalid style shown letter p, [])
where
  invalid (style : Style) (shown : String) (letter : Char) (p : Progress) : Progress :=
    { (p.complain (style.invalid (shown ++ String.singleton letter))) with
      status := style.invalidStatus }.stop

def once (style : Style) : Nat → List Char → Progress → Progress
  | 0, _, p => p
  | _, [], p => p
  | fuel + 1, c :: cs, p =>
    if p.isOver then p
    else if c == '\\' then
      match Escape.one style.formatEscapes cs with
      | .stop => p.stop
      | .incomplete => { p.complain style.incomplete with isOver := true }
      | .characters out rest => once style fuel rest (p.put (String.ofList out))
    else if c == '%' then
      match cs with
      | '%' :: rest => once style fuel rest (p.put "%")
      | _ =>
        let (p, rest) := directive style cs p
        once style fuel rest p
    else
      let plain := (c :: cs).takeWhile fun c => c != '\\' && c != '%'
      once style fuel ((c :: cs).drop plain.length) (p.put (String.ofList plain))

def again (style : Style) (format : List Char) : Nat → Progress → Progress
  | 0, p => p
  | fuel + 1, p =>
    let before := p.operands.length
    let p := once style (format.length + 1) format p
    if p.isOver || p.operands.isEmpty || p.operands.length = before then p
    else again style format fuel p

def run (style : Style) (format : String) (operands : List String) : Progress :=
  again style format.toList (operands.length + 1) { operands }

end Remedy.Text.Printf
