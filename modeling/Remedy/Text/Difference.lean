namespace Remedy.Text.Difference

structure Stretch where
  old : Nat
  removed : Nat
  new : Nat
  added : Nat
deriving DecidableEq, Repr

structure Marks where
  old : Array Bool
  new : Array Bool

structure Pair where
  old : Array Nat
  new : Array Nat

namespace Pair

def same (p : Pair) (i j : Nat) : Bool := p.old.getD i 0 == p.new.getD j 1

def run (p : Pair) (i iEnd j jEnd : Nat) : Nat :=
  let rec go : Nat → Nat → Nat
    | 0, n => n
    | fuel + 1, n =>
      if i + n < iEnd && j + n < jEnd && p.same (i + n) (j + n) then go fuel (n + 1) else n
  go (iEnd - i) 0

def runBack (p : Pair) (iStart i jStart j : Nat) : Nat :=
  let rec go : Nat → Nat → Nat
    | 0, n => n
    | fuel + 1, n =>
      if iStart + n < i && jStart + n < j && p.same (i - n - 1) (j - n - 1) then go fuel (n + 1)
      else n
  go (i - iStart) 0

structure Search where
  reached : Array Int
  low : Int
  high : Int

structure Box where
  oldStart : Nat
  oldEnd : Nat
  newStart : Nat
  newEnd : Nat

def Box.size (b : Box) : Nat := (b.oldEnd - b.oldStart) + (b.newEnd - b.newStart)

def Box.least (b : Box) : Int := (b.oldStart : Int) - b.newEnd

def Box.greatest (b : Box) : Int := (b.oldEnd : Int) - b.newStart

def Search.get (s : Search) (base d : Int) : Int := s.reached.getD (d - base).toNat 0

def Search.put (s : Search) (base d : Int) (x : Int) : Search :=
  { s with reached := s.reached.setIfInBounds (d - base).toNat x }

def Search.widen (s : Search) (b : Box) (base mark : Int) : Search :=
  let s := if s.low > b.least then { s.put base (s.low - 2) mark with low := s.low - 1 }
    else { s with low := s.low + 1 }
  if s.high < b.greatest then { s.put base (s.high + 2) mark with high := s.high + 1 }
  else { s with high := s.high - 1 }

def forward (p : Pair) (b : Box) (base : Int) (other : Option Search) :
    Nat → Int → Search → Search × Option (Nat × Nat)
  | 0, _, s => (s, none)
  | fuel + 1, d, s =>
    if d < s.low then (s, none)
    else
      let below := s.get base (d - 1)
      let above := s.get base (d + 1)
      let x := if below < above then above else below + 1
      let y := x - d
      let x := x + p.run x.toNat b.oldEnd y.toNat b.newEnd
      let s := s.put base d x
      let isMet := other.any fun o => o.low ≤ d && d ≤ o.high && o.get base d ≤ x
      if isMet then (s, some (x.toNat, (x - d).toNat))
      else p.forward b base other fuel (d - 2) s

def backward (p : Pair) (b : Box) (base : Int) (other : Option Search) :
    Nat → Int → Search → Search × Option (Nat × Nat)
  | 0, _, s => (s, none)
  | fuel + 1, d, s =>
    if d < s.low then (s, none)
    else
      let below := s.get base (d - 1)
      let above := s.get base (d + 1)
      let x := if below < above then below else above - 1
      let y := x - d
      let x := x - p.runBack b.oldStart x.toNat b.newStart y.toNat
      let s := s.put base d x
      let isMet := other.any fun o => o.low ≤ d && d ≤ o.high && x ≤ o.get base d
      if isMet then (s, some (x.toNat, (x - d).toNat))
      else p.backward b base other fuel (d - 2) s

/-- Searches from both ends until the searches meet. -/
def meet (p : Pair) (b : Box) (base far : Int) (isOdd : Bool) :
    Nat → Search → Search → Nat × Nat
  | 0, _, _ => (b.oldEnd, b.newEnd)
  | fuel + 1, f, g =>
    let f := f.widen b base (-1)
    match p.forward b base (if isOdd then some g else none) (b.size + 2) f.high f with
    | (_, some place) => place
    | (f, none) =>
      let g := g.widen b base far
      match p.backward b base (if isOdd then none else some f) (b.size + 2) g.high g with
      | (_, some place) => place
      | (g, none) => p.meet b base far isOdd fuel f g

def middle (p : Pair) (b : Box) : Nat × Nat :=
  let base := b.least - 2
  let far : Int := b.oldEnd + b.newEnd + 1
  let blank := Array.replicate (b.size + 5) (0 : Int)
  let top : Int := (b.oldStart : Int) - b.newStart
  let bottom : Int := (b.oldEnd : Int) - b.newEnd
  let f : Search := { reached := blank, low := top, high := top }
  let g : Search := { reached := blank, low := bottom, high := bottom }
  p.meet b base far ((top - bottom) % 2 ≠ 0) (b.size + 2) (f.put base top b.oldStart)
    (g.put base bottom b.oldEnd)

def compare (p : Pair) : Nat → Box → Marks → Marks
  | 0, _, m => m
  | fuel + 1, b, m =>
    let n := p.run b.oldStart b.oldEnd b.newStart b.newEnd
    let b := { b with oldStart := b.oldStart + n, newStart := b.newStart + n }
    let n := p.runBack b.oldStart b.oldEnd b.newStart b.newEnd
    let b := { b with oldEnd := b.oldEnd - n, newEnd := b.newEnd - n }
    let mark (a : Array Bool) (start stop : Nat) : Array Bool :=
      (List.range (stop - start)).foldl (fun a i => a.setIfInBounds (start + i) true) a
    if b.oldStart = b.oldEnd then { m with new := mark m.new b.newStart b.newEnd }
    else if b.newStart = b.newEnd then { m with old := mark m.old b.oldStart b.oldEnd }
    else
      let (i, j) := p.middle b
      let m := p.compare fuel { b with oldEnd := i, newEnd := j } m
      p.compare fuel { b with oldStart := i, newStart := j } m

end Pair

structure Sliding where
  changed : Array Bool
  start : Nat
  stop : Nat
  other : Nat

namespace Sliding

variable (values : Array Nat) (others : Array Bool)

def marked (a : Array Bool) (i : Nat) : Bool := a.getD (i + 1) false

def setMark (a : Array Bool) (i : Nat) (b : Bool) : Array Bool := a.setIfInBounds (i + 1) b

def skipBack (a : Array Bool) : Nat → Nat → Nat
  | 0, i => i
  | fuel + 1, i => if i > 0 && marked a (i - 1) then skipBack a fuel (i - 1) else i

def moveBack : Nat → Sliding → Sliding
  | 0, s => s
  | fuel + 1, s =>
    if s.start > 0 && values.getD (s.start - 1) 0 == values.getD (s.stop - 1) 0 then
      let changed := setMark (setMark s.changed (s.start - 1) true) (s.stop - 1) false
      let start := skipBack changed values.size (s.start - 1)
      moveBack fuel { changed, start, stop := s.stop - 1, other := back s.other }
    else s
where
  back (j : Nat) : Nat :=
    let rec go : Nat → Nat → Nat
      | 0, j => j
      | fuel + 1, j => if marked others j then go fuel (j - 1) else j
    go others.size (j - 1)

/-- Moves a stretch on; the second value is where it last stood beside a change. -/
def moveOn : Nat → Sliding → Nat → Sliding × Nat
  | 0, s, last => (s, last)
  | fuel + 1, s, last =>
    if s.stop < values.size && values.getD s.start 0 == values.getD s.stop 0 then
      let changed := setMark (setMark s.changed s.start false) s.stop true
      let rec skip : Nat → Nat → Nat
        | 0, i => i
        | n + 1, i => if marked changed i then skip n (i + 1) else i
      let stop := skip values.size (s.stop + 1)
      let rec skipOther : Nat → Nat → Bool → Nat × Bool
        | 0, j, found => (j, found)
        | n + 1, j, found => if marked others j then skipOther n (j + 1) true else (j, found)
      let (other, found) := skipOther others.size (s.other + 1) false
      moveOn fuel { changed, start := s.start + 1, stop, other } (if found then stop else last)
    else (s, last)

def settle : Nat → Sliding → Sliding × Nat
  | 0, s => (s, values.size)
  | fuel + 1, s =>
    let length := s.stop - s.start
    let s := moveBack values others values.size s
    let last := if s.other > 0 && marked others (s.other - 1) then s.stop else values.size
    let (s, last) := moveOn values others values.size s last
    if s.stop - s.start = length then (s, last) else settle fuel s

def align : Nat → Sliding → Nat → Sliding
  | 0, s, _ => s
  | fuel + 1, s, last =>
    if last < s.stop then
      let changed := setMark (setMark s.changed (s.start - 1) true) (s.stop - 1) false
      align fuel { changed, start := s.start - 1, stop := s.stop - 1,
                   other := moveBack.back others s.other } last
    else s

def all : Nat → Array Bool → Nat → Nat → Array Bool
  | 0, changed, _, _ => changed
  | fuel + 1, changed, i, j =>
    if i ≥ values.size then changed
    else if !marked changed i then
      -- the other place passes the changes in front of its element
      let rec pass : Nat → Nat → Nat
        | 0, j => j
        | n + 1, j => if marked others j then pass n (j + 1) else j + 1
      all fuel changed (i + 1) (pass others.size j)
    else
      let rec skip : Nat → Nat → Nat
        | 0, i => i
        | n + 1, i => if marked changed i then skip n (i + 1) else i
      let rec skipOther : Nat → Nat → Nat
        | 0, j => j
        | n + 1, j => if marked others j then skipOther n (j + 1) else j
      let s : Sliding :=
        { changed, start := i, stop := skip values.size (i + 1), other := skipOther others.size j }
      let (s, last) := settle values others (values.size + 1) s
      let s := align others values.size s last
      all fuel s.changed s.stop s.other

end Sliding

def slide (values : Array Nat) (changed others : Array Bool) : Array Bool :=
  let framed (a : Array Bool) := #[false] ++ a ++ #[false]
  let after := Sliding.all values (framed others) (2 * values.size + 1) (framed changed) 0 0
  after.extract 1 (after.size - 1)

def stretches (m : Marks) : Nat → Nat → Nat → List Stretch
  | 0, _, _ => []
  | fuel + 1, i, j =>
    let rec length (a : Array Bool) : Nat → Nat → Nat
      | 0, _ => 0
      | n + 1, i => if a.getD i false then length a n (i + 1) + 1 else 0
    let removed := length m.old m.old.size i
    let added := length m.new m.new.size j
    if removed + added > 0 then
      { old := i, removed, new := j, added } :: stretches m fuel (i + removed) (j + added)
    else if i ≥ m.old.size && j ≥ m.new.size then []
    else stretches m fuel (i + 1) (j + 1)

def commonStart : List Nat → List Nat → Nat
  | a :: as, b :: bs => if a = b then commonStart as bs + 1 else 0
  | _, _ => 0

/-- The changes that lead from a sequence to another one. What both have in common at their ends is
left aside, apart from so many elements. -/
def changes (old new : Array Nat) (horizon : Nat) : List Stretch :=
  let start := commonStart old.toList new.toList - horizon
  let old' := old.extract start old.size
  let new' := new.extract start new.size
  let finish := commonStart old'.toList.reverse new'.toList.reverse - horizon
  let p : Pair :=
    { old := old'.extract 0 (old'.size - finish), new := new'.extract 0 (new'.size - finish) }
  -- what the other sequence has nowhere is changed anyway
  let greatest := (old ++ new).foldl max 0
  let known (a b : Array Nat) : Array Nat :=
    let isThere := b.foldl (fun t v => t.setIfInBounds v true) (Array.replicate (greatest + 1) false)
    ((List.range a.size).filter fun i => isThere.getD (a.getD i 0) false).toArray
  let oldKnown := known p.old p.new
  let newKnown := known p.new p.old
  let q : Pair :=
    { old := oldKnown.map fun i => p.old.getD i 0, new := newKnown.map fun i => p.new.getD i 0 }
  let box : Pair.Box :=
    { oldStart := 0, oldEnd := q.old.size, newStart := 0, newEnd := q.new.size }
  let m := q.compare (box.size + 1) box
    { old := Array.replicate q.old.size false, new := Array.replicate q.new.size false }
  let spread (size : Nat) (places : Array Nat) (marks : Array Bool) : Array Bool :=
    (places.toList.zip marks.toList).foldl (fun a (i, isChanged) =>
      a.setIfInBounds i isChanged) (Array.replicate size true)
  let oldMarks := spread p.old.size oldKnown m.old
  let newMarks := spread p.new.size newKnown m.new
  let oldMarks := slide p.old oldMarks newMarks
  let newMarks := slide p.new newMarks oldMarks
  (stretches { old := oldMarks, new := newMarks } (p.old.size + p.new.size + 1) 0 0).map fun c =>
    { c with old := c.old + start, new := c.new + start }

end Remedy.Text.Difference
