import Remedy.Tool.Input

namespace Remedy.Tool.Widths

def advance (countsOctets : Bool) (column : Nat) (c : Char) : Nat :=
  if countsOctets then column + 1
  else
    match c with
    | '\x08' => column - 1
    | '\r' => 0
    | '\t' => (column / 8 + 1) * 8
    | _ => column + 1

/-- A line in pieces of at most so many columns; where blanks break, a piece ends behind its last
blank if it has one. The piece at hand is kept with its last character first. -/
def broken (width : Nat) (countsOctets atBlanks : Bool) (line : List Char) : List String :=
  let place (cs : List Char) : Nat := cs.foldr (fun c n => advance countsOctets n c) 0
  let rec go : Nat → List Char → List Char → Nat → List String
    | 0, _, piece, _ | _, [], piece, _ => [String.ofList piece.reverse]
    | n + 1, c :: rest, piece, column =>
      let next := advance countsOctets column c
      if next ≤ width then go n rest (c :: piece) next
      else
        let behind := piece.takeWhile fun c => c != ' ' && c != '\t'
        if atBlanks && behind.length < piece.length then
          String.ofList (piece.drop behind.length).reverse :: go n (c :: rest) behind (place behind)
        else if piece.isEmpty then go n rest [c] next
        else String.ofList piece.reverse :: go n (c :: rest) [] 0
  go (3 * line.length + 3) line [] 0

/-- The words with numbers that stand for widths given as such; letters may stand in front. -/
def newStyle (words : List String) : List String :=
  words.map fun w =>
    match w.toList with
    | '-' :: cs =>
      let letters := cs.takeWhile fun c => c == 'b' || c == 's'
      let digits := cs.drop letters.length
      if digits.head?.any Char.isDigit then
        "-" ++ String.ofList letters ++ "w" ++ String.ofList digits
      else w
    | _ => w

def fold (words : List String) : Tool Unit := do
  let g ← given [opt 'b' "bytes", opt 's' "spaces", opt 'w' "width" .argument] (newStyle words)
  for (key, text) in g.options do
    if key == "w" then
      let _ ← numberIn "invalid number of columns" "" 1 (twoTo 64 - 10) text
  let width ← numberOf g "w" "invalid number of columns" "" 1 80
  mapLines (Input.ofPaths g.operands) fun l =>
    "\n".intercalate (broken width (g.has "b") (g.has "s") l.toList)

/-- Where tabulators lead to: places, and what comes behind the last of them. -/
structure Stops where
  places : List Nat := []
  multiple : Nat := 0
  step : Nat := 0

def Stops.next? (s : Stops) (column : Nat) : Option Nat :=
  match s.places with
  | [width] =>
    if s.multiple = 0 && s.step = 0 then some ((column / width + 1) * width)
    else behind [width]
  | [] =>
    let width := if s.multiple > 0 then s.multiple else if s.step > 0 then s.step else 8
    some ((column / width + 1) * width)
  | places => behind places
where
  behind (places : List Nat) : Option Nat :=
    match places.find? (column < ·) with
    | some n => some n
    | none =>
      if s.multiple > 0 then some ((column / s.multiple + 1) * s.multiple)
      else if s.step > 0 then
        let last := places.getLastD 0
        some (column + (s.step - (column - last) % s.step))
      else none

def Stops.add (s : Stops) (mark : Option Char) (n : Nat) : Except String Stops :=
  match mark with
  | some '/' => if s.multiple > 0 then .error "'/' specifier only allowed with the last value"
    else .ok { s with multiple := n }
  | some _ => if s.step > 0 then .error "'+' specifier only allowed with the last value"
    else .ok { s with step := n }
  | none => .ok { s with places := s.places ++ [n] }

def Stops.read (s : Stops) (text : String) : Except String Stops :=
  let rec go : List Char → Option Char → Option (List Char × List Char) → Stops →
      Except String Stops
    | [], mark, number, s => close mark number s
    | c :: rest, mark, number, s =>
      if c == ',' || c == ' ' || c == '\t' then do go rest mark none (← close mark number s)
      else if c == '/' || c == '+' then
        if number.isSome then
          .error (marked (String.singleton c) ++ " specifier not at start of number: " ++
            marked (String.ofList (c :: rest)))
        else go rest (some c) none s
      else if c.isDigit then
        let (digits, start) := number.getD ([], c :: rest)
        go rest mark (some (c :: digits, start)) s
      else .error ("tab size contains invalid character(s): " ++ marked (String.ofList (c :: rest)))
  go text.toList none none s
where
  close (mark : Option Char) (number : Option (List Char × List Char)) (s : Stops) :
      Except String Stops :=
    match number with
    | none => .ok s
    | some (digits, start) =>
      match natural? (String.ofList digits.reverse) with
      | some n =>
        if n < twoTo 64 then s.add mark n
        else .error ("tab stop is too large " ++ marked (String.ofList (start.takeWhile Char.isDigit)))
      | none => .ok s

def Stops.problem? (s : Stops) : Option String :=
  let rec go : Nat → List Nat → Option String
    | _, [] => none
    | last, n :: rest =>
      if n = 0 then some "tab size cannot be 0"
      else if n ≤ last then some "tab sizes must be ascending"
      else go n rest
  match go 0 s.places with
  | some problem => some problem
  | none =>
    if s.multiple > 0 && s.step > 0 then some "'/' specifier is mutually exclusive with '+'" else none

def stops (g : Given) : Tool Stops := do
  let mut s : Stops := {}
  for (key, text) in g.options do
    if key == "t" then
      match s.read text with
      | .ok t => s := t
      | .error e => fail 1 e
  match s.problem? with
  | some problem => fail 1 problem
  | none => return s

def withStops (words : List String) : List String :=
  words.map fun w =>
    match w.toList with
    | '-' :: c :: cs => if c.isDigit then "-t" ++ String.ofList (c :: cs) else w
    | _ => w

/-- A line with its tabulators spread out; all that stand behind other characters may stay. -/
def spread (s : Stops) (onlyInitial : Bool) (line : String) : String :=
  let (cs, _, _) := line.toList.foldl (fun (out, column, changes) c =>
    if !changes then (c :: out, column, false)
    else
      match c with
      | '\t' =>
        let next := (s.next? column).getD (column + 1)
        (List.replicate (next - column) ' ' ++ out, next, true)
      | '\x08' => (c :: out, column - 1, !onlyInitial)
      | c => (c :: out, column + 1, !onlyInitial || c == ' ')) (([] : List Char), 0, true)
  String.ofList cs.reverse

def expand (words : List String) : Tool Unit := do
  let g ← given [opt 'i' "initial", opt 't' "tabs" .argument] (withStops words)
  let s ← stops g
  mapLines (Input.ofPaths g.operands) (spread s (g.has "i"))

/-- What is known of a line whose blanks are drawn together. -/
structure Drawing where
  column : Nat := 0
  pending : List Char := []
  wasBlank : Bool := true
  /-- Whether the first of the blanks stands in front of a stop alone. -/
  isSingle : Bool := false
  changes : Bool := true
  out : List Char := []

def Drawing.release (d : Drawing) : Drawing :=
  if d.pending.isEmpty then d
  else
    let blanks := if d.pending.length > 1 && d.isSingle then '\t' :: d.pending.drop 1 else d.pending
    { d with out := blanks.reverse ++ d.out, pending := [], isSingle := false }

def Drawing.step (s : Stops) (everywhere : Bool) (d : Drawing) (c : Char) : Drawing :=
  if !d.changes then { d with out := c :: d.out }
  else
    let isBlank := c == ' ' || c == '\t'
    let finish (d : Drawing) (c : Char) : Drawing :=
      let d := d.release
      { d with wasBlank := isBlank, changes := d.changes && (everywhere || isBlank), out := c :: d.out }
    if isBlank then
      match s.next? d.column with
      | none => { finish d c with changes := false }
      | some next =>
        if c == '\t' then
          let pending := if d.pending.isEmpty then [] else '\t' :: d.pending.drop 1
          finish { d with column := next, pending := if d.isSingle then pending.take 1 else [] } c
        else
          let column := d.column + 1
          if !(d.wasBlank && column = next) then
            { d with
              column
              isSingle := d.isSingle || column = next
              pending := d.pending ++ [c]
              wasBlank := true }
          else
            let pending := '\t' :: d.pending.drop 1
            finish { d with column, pending := if d.isSingle then pending.take 1 else [] } '\t'
    else if c == '\x08' then finish { d with column := d.column - 1 } c
    else finish { d with column := d.column + 1 } c

def drawn (s : Stops) (everywhere : Bool) (line : String) : String :=
  let d := line.toList.foldl (Drawing.step s everywhere) {}
  String.ofList d.release.out.reverse

def unexpand (words : List String) : Tool Unit := do
  let g ← given [opt 'a' "all", long "first-only", opt 't' "tabs" .argument] (withStops words)
  let s ← stops g
  let everywhere := (g.has "a" || words.any fun w => w.startsWith "-t" || w.startsWith "--t") &&
    !g.has "first-only"
  mapLines (Input.ofPaths g.operands) (drawn s everywhere)

def catalogue : List (String × (List String → Tool Unit)) := [
  ("fold", fold), ("expand", expand), ("unexpand", unexpand)]

end Remedy.Tool.Widths
