namespace Remedy

/-- A set of characters as ranges, or what is left of all characters without them. -/
structure CharSet where
  ranges : List (Char × Char)
  isNegated : Bool := false
deriving DecidableEq, Repr, Inhabited

namespace CharSet

def has (s : CharSet) (c : Char) : Bool :=
  (s.ranges.any fun (low, high) => low ≤ c && c ≤ high) != s.isNegated

def single (c : Char) : CharSet := { ranges := [(c, c)] }

def any : CharSet := { ranges := [], isNegated := true }

def digits : List (Char × Char) := [('0', '9')]

def upper : List (Char × Char) := [('A', 'Z')]

def lower : List (Char × Char) := [('a', 'z')]

def blanks : List (Char × Char) := [(' ', ' '), ('\t', '\r')]

def wordRanges : List (Char × Char) := digits ++ upper ++ lower ++ [('_', '_')]

def class? (name : String) : Option (List (Char × Char)) :=
  match name with
  | "alpha" => some (upper ++ lower)
  | "digit" => some digits
  | "alnum" => some (digits ++ upper ++ lower)
  | "upper" => some upper
  | "lower" => some lower
  | "space" => some blanks
  | "blank" => some [(' ', ' '), ('\t', '\t')]
  | "punct" => some [('!', '/'), (':', '@'), ('[', '`'), ('{', '~')]
  | "print" => some [(' ', '~')]
  | "graph" => some [('!', '~')]
  | "cntrl" => some [('\x00', '\x1f'), ('\x7f', '\x7f')]
  | "xdigit" => some (digits ++ [('A', 'F'), ('a', 'f')])
  | _ => none

def ignoringCase (s : CharSet) : CharSet :=
  let swapped := s.ranges.flatMap fun (low, high) =>
    let part (from' to' : Char) (shift : Nat → Nat) : List (Char × Char) :=
      let a := if low < from' then from' else low
      let b := if to' < high then to' else high
      if a ≤ b then [(Char.ofNat (shift a.toNat), Char.ofNat (shift b.toNat))] else []
    part 'a' 'z' (· - 32) ++ part 'A' 'Z' (· + 32)
  { s with ranges := s.ranges ++ swapped }

end CharSet

inductive Anchor where
  | lineStart
  | lineEnd
  | textStart
  | textEnd
  | wordStart
  | wordEnd
  | wordEdge
  | notWordEdge
  | notAfterWord
  | notBeforeWord
deriving DecidableEq, Repr

inductive Regex where
  | empty
  | set (s : CharSet)
  | anchor (a : Anchor)
  | seq (a b : Regex)
  | alt (a b : Regex)
  | many (r : Regex) (least : Nat) (most : Option Nat)
  | group (n : Nat) (r : Regex)
  | back (n : Nat)
deriving Repr, Inhabited

namespace Regex

def groups : Regex → Nat
  | .empty | .set _ | .anchor _ | .back _ => 0
  | .seq a b | .alt a b => max a.groups b.groups
  | .many r _ _ => r.groups
  | .group n r => max n r.groups

def hasBack : Regex → Bool
  | .back _ => true
  | .empty | .set _ | .anchor _ => false
  | .seq a b | .alt a b => a.hasBack || b.hasBack
  | .many r _ _ | .group _ r => r.hasBack

def literal (s : String) : Regex :=
  s.toList.foldr (fun c r => .seq (.set (.single c)) r) .empty

def ignoringCase : Regex → Regex
  | .set s => .set s.ignoringCase
  | .seq a b => .seq a.ignoringCase b.ignoringCase
  | .alt a b => .alt a.ignoringCase b.ignoringCase
  | .many r least most => .many r.ignoringCase least most
  | .group n r => .group n r.ignoringCase
  | r => r

end Regex

end Remedy
