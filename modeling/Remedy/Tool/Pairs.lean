import Remedy.Tool.Input

namespace Remedy.Tool.Pairs

def isBlank (c : Char) : Bool := c == ' ' || c == '\t' || c == '\n'

def bothFiles (g : Given) : Tool ((List String × Bool) × (List String × Bool)) := do
  let ending := if g.has "z" then '\x00' else '\n'
  let read (path : String) : Tool (List String × Bool) := do
    match ← readAll path with
    | .ok text => return linesOf text ending
    | .error e => fail 1 (quoted path ++ ": " ++ e.message)
  let a ← read (g.operands.headD "-")
  let b ← read (g.operands.getD 1 "-")
  return (a, b)

/-- One of two files that are compared: the lines at hand and ahead, the two lines before them, and
whether its disorder was told of. -/
structure Side where
  lines : List String
  last : Option String := none
  beforeLast : Option String := none
  isTold : Bool := false

def Side.step (s : Side) : Side :=
  { s with lines := s.lines.drop 1, last := s.lines.head?, beforeLast := s.last }

/-- Whether the line at hand is less than the one before it; at the end the last two lines are looked
at once more. -/
def Side.isOff (s : Side) : Bool :=
  match s.lines.head?, s.last, s.beforeLast with
  | some line, some last, _ => line < last
  | none, some last, some before => last < before
  | _, _, _ => false

def comm (words : List String) : Tool Unit := do
  let g ← given [opt '1' "", opt '2' "", opt '3' "", opt 'z' "zero-terminated",
    long "check-order", long "nocheck-order", long "output-delimiter" .argument, long "total"] words
  demand g 2
  bound g 2
  let ((as, _), (bs, _)) ← bothFiles g
  let separator := (g.argument? "output-delimiter").getD "\t"
  let separator := if separator == "" then "\x00" else separator
  let ending := if g.has "z" then "\x00" else "\n"
  let front (column : Nat) : String :=
    (if column ≥ 2 && !g.has "1" then separator else "") ++
      (if column ≥ 3 && !g.has "2" then separator else "")
  let checked (s : Side) (name : String) (seen : Bool) : Tool Side := do
    if !g.has "nocheck-order" && (g.has "check-order" || seen) && !s.isTold && s.isOff then
      if g.has "check-order" then fail 1 ("file " ++ name ++ " is not in sorted order")
      else
        complain ("file " ++ name ++ " is not in sorted order")
        return { s with isTold := true }
    else return s
  let rec go : Nat → Side → Side → Bool → Nat × Nat × Nat → Tool (Bool × Nat × Nat × Nat)
    | 0, a, b, _, counts => return (a.isTold || b.isTold, counts)
    | n + 1, a, b, seen, (i, j, k) => do
      let o : Option Ordering := match a.lines.head?, b.lines.head? with
        | none, none => none
        | some _, none => some .lt
        | none, some _ => some .gt
        | some x, some y => some (compareOfLessAndEq x y)
      match o with
      | none => return (a.isTold || b.isTold, i, j, k)
      | some .eq =>
        unless g.has "3" do put (front 3 ++ a.lines.headD "" ++ ending)
        let a ← checked a.step "1" seen
        let b ← checked b.step "2" seen
        go n a b seen (i, j, k + 1)
      | some .lt =>
        unless g.has "1" do put (a.lines.headD "" ++ ending)
        go n (← checked a.step "1" true) b true (i + 1, j, k)
      | some .gt =>
        unless g.has "2" do put (front 2 ++ b.lines.headD "" ++ ending)
        go n a (← checked b.step "2" true) true (i, j + 1, k)
  let (isOff, i, j, k) ← go (as.length + bs.length + 1) { lines := as } { lines := bs } false
    (0, 0, 0)
  if g.has "total" then
    put (separator.intercalate [toString i, toString j, toString k, "total"] ++ ending)
  if isOff then fail 1 "input is not in sorted order"

/-- The fields of a line; a line of blanks and an empty one have none. -/
def fields (separator : Option Char) (line : String) : List String :=
  match separator with
  | some c => if line == "" then [] else line.splitOn (String.singleton c)
  | none =>
    let rec go : Nat → List Char → List String
      | 0, _ => []
      | n + 1, cs =>
        let field := cs.takeWhile fun c => !isBlank c
        match cs.drop field.length with
        | [] => [String.ofList field]
        | rest =>
          let rest := rest.dropWhile isBlank
          -- blanks at the end have an empty field behind them
          String.ofList field :: if rest.isEmpty then [""] else go n rest
    let cs := line.toList.dropWhile isBlank
    if cs.isEmpty then [] else go cs.length cs

inductive Source where
  | key
  | left (field : Nat)
  | right (field : Nat)

structure Plan where
  separator : Option Char := none
  leftField : Nat := 0
  rightField : Nat := 0
  showsPairs : Bool := true
  showsLeft : Bool := false
  showsRight : Bool := false
  foldsCase : Bool := false
  filler : String := ""
  sources : Option (List Source) := none
  counts : Option (Nat × Nat) := none
  ending : String := "\n"
  /-- Whether disorder ends the tool, or is only looked for behind lines without partners. -/
  check : Option Bool := some false

abbrev Row := List String

def Plan.key (p : Plan) (field : Nat) (r : Row) : String :=
  let s := r.getD field ""
  if p.foldsCase then s.map Char.toLower else s

def Plan.render (p : Plan) (a b : Option Row) : String :=
  let shown (r : Row) (field : Nat) : String :=
    match r[field]? with
    | some "" | none => p.filler
    | some s => s
  let left := a.getD []
  let right := b.getD []
  let key := if a.isSome then shown left p.leftField else shown right p.rightField
  let others (r : Row) (field : Nat) (count : Option Nat) : List String :=
    ((List.range (count.getD r.length)).filter (· ≠ field)).map (shown r)
  let texts := match p.sources with
    | some sources => sources.map fun
      | .key => key
      | .left n => shown left n
      | .right n => shown right n
    | none =>
      key :: (others left p.leftField (p.counts.map (·.1)) ++
        others right p.rightField (p.counts.map (·.2)))
  (p.separator.elim " " String.singleton).intercalate texts ++ p.ending

/-- A file that is being joined: its lines that were not read yet, the number of the last one that
was, and whether its disorder was told of. -/
structure Half where
  name : String
  field : Nat
  lines : List String
  number : Nat := 0
  previous : Option Row := none
  isTold : Bool := false

/-- The next row of a file. Its order is checked once a line had no partner. -/
def Half.read (p : Plan) (seen : Bool) (h : Half) : Tool (Option Row × Half) := do
  match h.lines with
  | [] => return (none, h)
  | line :: rest =>
    let row := fields p.separator line
    let isOff := match h.previous with
      | some r => p.key h.field row < p.key h.field r
      | none => false
    let h := { h with lines := rest, number := h.number + 1, previous := some row }
    match p.check with
    | some isStrict =>
      if isOff && !h.isTold && (isStrict || seen) then
        let message := h.name ++ ":" ++ toString h.number ++ ": is not sorted: " ++ line
        if isStrict then fail 1 message
        complain message
        return (some row, { h with isTold := true })
      else return (some row, h)
    | none => return (some row, h)

/-- Rows that have one key, read one after another; gives the row behind them. -/
def Half.readGroup (p : Plan) (seen : Bool) (key : String) :
    Nat → Half → Tool (List Row × Option Row × Half)
  | 0, h => return ([], none, h)
  | n + 1, h => do
    match ← h.read p seen with
    | (none, h) => return ([], none, h)
    | (some row, h) =>
      if p.key h.field row == key then
        let (rows, next, h) ← h.readGroup p seen key n
        return (row :: rows, next, h)
      else return ([], some row, h)

def joinFrom (p : Plan) : Nat → Bool → Option Row → Half → Option Row → Half → Tool Bool
  | 0, _, _, x, _, y => return x.isTold || y.isTold
  | n + 1, seen, a, x, b, y => do
    match a, b with
    | some r, some s =>
      let k := p.key p.leftField r
      let l := p.key p.rightField s
      if k < l then
        if p.showsLeft then put (p.render a none)
        let (a, x) ← x.read p seen
        joinFrom p n true a x b y
      else if l < k then
        if p.showsRight then put (p.render none b)
        let (b, y) ← y.read p seen
        joinFrom p n true a x b y
      else
        let (rs, a, x) ← x.readGroup p seen k (x.lines.length + 1)
        let (ss, b, y) ← y.readGroup p seen l (y.lines.length + 1)
        if p.showsPairs then
          (r :: rs).forM fun r => (s :: ss).forM fun s => put (p.render (some r) (some s))
        joinFrom p n seen a x b y
    | some _, none =>
      if p.showsLeft then put (p.render a none)
      let (a, x) ← x.read p seen
      joinFrom p n seen a x none y
    | none, some _ =>
      if p.showsRight then put (p.render none b)
      let (b, y) ← y.read p seen
      joinFrom p n seen none x b y
    | none, none => return x.isTold || y.isTold

def fieldNumber (text : String) : Tool Nat := do
  match sized "" text with
  | .ok 0 | .error .malformed | .error .suffix => fail 1 ("invalid field number: " ++ marked text)
  | .ok n => return n - 1
  | .error .tooGreat => return twoTo 62

def sourcesOf (text : String) : Tool (List Source) :=
  ((text.splitToList fun c => c == ',' || c == ' ' || c == '\t')).mapM fun spec => do
    let invalid : Tool Source := fail 1 ("invalid field specifier: " ++ marked spec)
    match spec.toList with
    | ['0'] => return .key
    | '0' :: _ => invalid
    | '1' :: '.' :: rest => return .left (← fieldNumber (String.ofList rest))
    | '2' :: '.' :: rest => return .right (← fieldNumber (String.ofList rest))
    | '1' :: _ | '2' :: _ => invalid
    | _ => fail 1 ("invalid file number in field spec: " ++ marked spec)

/-- What the options ask for; whether the number of fields comes from the first lines. -/
def planOf (g : Given) : Tool (Plan × Bool) := do
  let mut p : Plan := {}
  let mut isAuto := false
  let mut hasFiller := false
  let mut left : Option Nat := none
  let mut right : Option Nat := none
  let agree (old : Option Nat) (new : Nat) : Tool (Option Nat) := do
    match old with
    | some n =>
      if n ≠ new then
        fail 1 ("incompatible join fields " ++ toString n ++ ", " ++ toString new)
      return some new
    | none => return some new
  for (key, text) in g.options do
    match key with
    | "a" | "v" =>
      if key == "v" then p := { p with showsPairs := false }
      match text with
      | "1" => p := { p with showsLeft := true }
      | "2" => p := { p with showsRight := true }
      | _ => fail 1 ("invalid field number: " ++ marked text)
    | "e" =>
      if hasFiller && p.filler != text then fail 1 "conflicting empty-field replacement strings"
      hasFiller := true
      p := { p with filler := text }
    | "i" => p := { p with foldsCase := true }
    | "z" => p := { p with ending := "\x00" }
    | "o" =>
      if text == "auto" then isAuto := true
      else p := { p with sources := some ((p.sources.getD []) ++ (← sourcesOf text)) }
    | "t" =>
      let c ← match text.toList with
        | [] => pure '\n'
        | [c] => pure c
        | ['\\', '0'] => pure '\x00'
        | _ => fail 1 ("multi-character tab " ++ marked text)
      if p.separator.any (· != c) then fail 1 "incompatible tabs"
      p := { p with separator := some c }
    | "1" => left := ← agree left (← fieldNumber text)
    | "2" => right := ← agree right (← fieldNumber text)
    | "j" =>
      let n ← fieldNumber text
      left := ← agree left n
      right := ← agree right n
    | "check-order" => p := { p with check := some true }
    | "nocheck-order" => p := { p with check := none }
    | _ => pure ()
  return ({ p with leftField := left.getD 0, rightField := right.getD 0 }, isAuto)

def joinLines (words : List String) : Tool Unit := do
  let g ← given [opt 't' "" .argument, opt 'a' "" .argument, opt 'v' "" .argument,
    opt 'o' "" .argument, opt 'e' "" .argument, opt 'i' "ignore-case", opt '1' "" .argument,
    opt '2' "" .argument, opt 'j' "" .argument, opt 'z' "zero-terminated", long "header",
    long "check-order", long "nocheck-order"] words
  let (p, isAuto) ← planOf g
  demand g 2
  bound g 2
  if g.operands == ["-", "-"] then fail 1 "both files cannot be standard input"
  let ((as, _), (bs, _)) ← bothFiles g
  let x : Half := { name := g.operands.headD "", field := p.leftField, lines := as }
  let y : Half := { name := g.operands.getD 1 "", field := p.rightField, lines := bs }
  let (a, x) ← x.read p false
  let (b, y) ← y.read p false
  let count (r : Option Row) : Nat := (r.getD []).length
  let p := if isAuto then { p with counts := some (count a, count b) } else p
  let isOff ←
    if g.has "header" && (a.isSome || b.isSome) then do
      put (p.render (some (a.getD [])) (some (b.getD [])))
      let (a, x) ← { x with previous := none : Half }.read p false
      let (b, y) ← { y with previous := none : Half }.read p false
      joinFrom p (as.length + bs.length + 2) false a x b y
    else joinFrom p (as.length + bs.length + 2) false a x b y
  if isOff then fail 1 "input is not in sorted order"

def catalogue : List (String × (List String → Tool Unit)) := [("comm", comm), ("join", joinLines)]

end Remedy.Tool.Pairs
