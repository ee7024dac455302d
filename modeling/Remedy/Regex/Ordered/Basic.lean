import Remedy.Regex.Matching

namespace Remedy

inductive Eagerness where
  | most
  | least
deriving DecidableEq, Repr

inductive Ordered where
  | empty
  | set (s : CharSet)
  | anchor (a : Anchor)
  | seq (a b : Ordered)
  | alt (a b : Ordered)
  | many (r : Ordered) (least : Nat) (most : Option Nat) (eagerness : Eagerness)
  | group (n : Nat) (r : Ordered)
  | atomic (r : Ordered)
  | ahead (isThere : Bool) (r : Ordered)
  /-- What so many characters before the place are, or must not be. -/
  | behind (isThere : Bool) (width : Nat) (r : Ordered)
  | back (n : Nat) (ignoresCase : Bool)
  | call (n : Nat)
  | keep
deriving Repr, Inhabited

namespace Ordered

open Regex

structure Trail where
  place : Nat
  groups : List (Nat × Nat × Nat) := []
  start : Option Nat := none

def literal (s : String) : Ordered :=
  s.toList.foldr (fun c r => .seq (.set (.single c)) r) .empty

def group? (n : Nat) : Ordered → Option Ordered
  | .group m r => if m = n then some (.group m r) else group? n r
  | .seq a b | .alt a b => (group? n a).orElse fun _ => group? n b
  | .many r _ _ _ | .atomic r | .ahead _ r | .behind _ _ r => group? n r
  | .empty | .set _ | .anchor _ | .back _ _ | .call _ | .keep => none

def width? : Ordered → Option Nat
  | .set _ => some 1
  | .seq a b => do return (← width? a) + (← width? b)
  | .alt a b => do
    let n ← width? a
    if n = (← width? b) then some n else none
  | .many r least most _ => do
    let n ← width? r
    if most = some least then some (n * least) else none
  | .group _ r | .atomic r => width? r
  | .empty | .anchor _ | .ahead _ _ | .behind _ _ _ | .keep => some 0
  | .back _ _ | .call _ => none

def branches : Ordered → List Ordered
  | .alt a b => branches a ++ branches b
  | r => [r]

def isSame (ignoresCase : Bool) (c d : Char) : Bool :=
  c == d || ignoresCase && c.toLower == d.toLower

/-- How many characters from a place on are in the set, of so many at most. -/
def runLength (s : CharSet) (text : Array Char) : Nat → Nat → Nat
  | 0, _ => 0
  | n + 1, i =>
    match text[i]? with
    | some c => if s.has c then runLength s text n (i + 1) + 1 else 0
    | none => 0

/-- Follows an expression on its ways, of which the first one is taken that `next` goes on from. -/
def follow (whole : Ordered) (text : Array Char) :
    Nat → Ordered → Trail → (Trail → Option Trail) → Option Trail
  | 0, _, _, _ => none
  | fuel + 1, r, t, next =>
    match r with
    | .empty => next t
    | .set s =>
      match text[t.place]? with
      | some c => if s.has c then next { t with place := t.place + 1 } else none
      | none => none
    | .anchor a => if holds { multiline := true } text t.place a then next t else none
    | .seq a b => follow whole text fuel a t fun t => follow whole text fuel b t next
    | .alt a b =>
      (follow whole text fuel a t next).orElse fun _ => follow whole text fuel b t next
    | .many (.set s) least most eagerness =>
      let room := text.size - t.place
      let count := runLength s text (most.elim room (min room)) t.place
      if count < least then none
      else
        let step (i : Nat) : Option Trail := next { t with place := t.place + i }
        (List.range (count + 1 - least)).findSome? fun i =>
          match eagerness with
          | .most => step (count - i)
          | .least => step (least + i)
    | .many a least most eagerness =>
      if most = some 0 then next t
      else
        let again (_ : Unit) : Option Trail := follow whole text fuel a t fun u =>
          -- what matches nothing is not repeated
          if u.place = t.place then next u
          else follow whole text fuel (.many a (least - 1) (most.map (· - 1)) eagerness) u next
        if least > 0 then again ()
        else
          match eagerness with
          | .most => (again ()).orElse fun _ => next t
          | .least => (next t).orElse again
    | .group n a =>
      follow whole text fuel a t fun u =>
        next { u with groups := (n, t.place, u.place) :: u.groups }
    | .atomic a => (follow whole text fuel a t some).bind next
    | .ahead isThere a =>
      match follow whole text fuel a t some, isThere with
      | some u, true => next { u with place := t.place }
      | none, false => next t
      | _, _ => none
    | .behind isThere width a =>
      let found := if t.place < width then none
        else follow whole text fuel a { t with place := t.place - width } fun u =>
          if u.place = t.place then some u else none
      match found, isThere with
      | some u, true => next u
      | none, false => next t
      | _, _ => none
    | .back n ignoresCase =>
      match t.groups.lookup n with
      | none => none
      | some (a, b) =>
        let past := text.extract a b
        let here := text.extract t.place (t.place + past.size)
        if here.size = past.size && (past.zip here).all fun (c, d) => isSame ignoresCase c d then
          next { t with place := t.place + past.size }
        else none
    | .call n =>
      match if n = 0 then some whole else whole.group? n with
      | none => none
      | some a => follow whole text fuel a t fun u => next { u with groups := t.groups }
    | .keep => next { t with start := some t.place }

def depth : Nat := 1000000

/-- The first match that begins at one of so many places. -/
def searchFrom (r : Ordered) (text : Array Char) : Nat → Nat → Option (Nat × Nat)
  | 0, _ => none
  | n + 1, i =>
    match follow r text depth r { place := i } some with
    | some t => some (t.start.getD i, t.place)
    | none => searchFrom r text n (i + 1)

def search? (r : Ordered) (text : Array Char) (start : Nat) : Option (Nat × Nat) :=
  searchFrom r text (text.size + 1 - start) start

end Ordered

end Remedy
