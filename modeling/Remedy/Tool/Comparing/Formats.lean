import Remedy.Tool.Comparing.Basic

namespace Remedy.Tool.Comparing

open Unix Files Text.Difference

/-- A number that a format writes: the base, the letters and how wide it is. -/
structure Numeral where
  base : Nat := 10
  isCapital : Bool := false
  width : Nat := 0
  digits : Option Nat := none
  isLeft : Bool := false
  hasZeros : Bool := false

def Numeral.write (n : Numeral) (value : Nat) : String :=
  let text := String.ofList (Nat.toDigits n.base value)
  let text := if n.isCapital then text.toUpper else text
  let text := "".pushn '0' (n.digits.getD 1 - text.length) ++ text
  if n.isLeft then padRight text n.width
  else if n.hasZeros && n.digits.isNone then "".pushn '0' (n.width - text.length) ++ text
  else padLeft text n.width

def numeral? (cs : List Char) : Option (Numeral × List Char) :=
  let number (cs : List Char) : Nat × List Char :=
    let digits := cs.takeWhile Char.isDigit
    (digits.foldl (fun n c => 10 * n + (c.toNat - 48)) 0, cs.drop digits.length)
  let marks := cs.takeWhile fun c => c == '-' || c == '\'' || c == '0'
  let (width, cs) := number (cs.drop marks.length)
  let (digits, cs) := match cs with
    | '.' :: cs =>
      let (n, cs) := number cs
      (some n, cs)
    | cs => (none, cs)
  let n : Numeral :=
    { width, digits, isLeft := marks.contains '-', hasZeros := marks.contains '0' }
  match cs with
  | 'd' :: cs => some (n, cs)
  | 'o' :: cs => some ({ n with base := 8 }, cs)
  | 'x' :: cs => some ({ n with base := 16 }, cs)
  | 'X' :: cs => some ({ n with base := 16, isCapital := true }, cs)
  | _ => none

def character? (cs : List Char) : Option (Char × List Char) :=
  match cs with
  | '\'' :: '\\' :: cs =>
    let digits := cs.takeWhile fun c => '0' ≤ c && c ≤ '7'
    match cs.drop digits.length with
    | '\'' :: rest =>
      if digits.isEmpty then none
      else some (Char.ofNat (digits.foldl (fun n c => 8 * n + (c.toNat - 48)) 0 % 256), rest)
    | _ => none
  | '\'' :: c :: '\'' :: rest => some (c, rest)
  | _ => none

def formatLine (number : Nat) (l : Line) : Nat → List Char → String
  | 0, _ => ""
  | _, [] => ""
  | fuel + 1, '%' :: cs =>
    match cs with
    | '%' :: rest => "%" ++ formatLine number l fuel rest
    | 'l' :: rest => l.1 ++ formatLine number l fuel rest
    | 'L' :: rest => l.1 ++ (if l.2 then "\n" else "") ++ formatLine number l fuel rest
    | 'c' :: more =>
      match character? more with
      | some (c, rest) => String.singleton c ++ formatLine number l fuel rest
      | none => "%" ++ formatLine number l fuel cs
    | _ =>
      match numeral? cs with
      | some (n, 'n' :: rest) => n.write number ++ formatLine number l fuel rest
      | _ => "%" ++ formatLine number l fuel cs
  | fuel + 1, c :: cs => String.singleton c ++ formatLine number l fuel cs

structure Group where
  sides : Sides
  place : Stretch

/-- The number that a letter stands for; small letters are for the first file. -/
def Group.value? (g : Group) (letter : Char) : Option Nat :=
  let start := if letter.isUpper then g.place.new else g.place.old
  let count := if letter.isUpper then g.place.added else g.place.removed
  match letter.toLower with
  | 'e' => some start
  | 'f' => some (start + 1)
  | 'l' => some (start + count)
  | 'm' => some (start + count + 1)
  | 'n' => some count
  | _ => none

def Group.operand? (g : Group) (cs : List Char) : Option (Nat × List Char) :=
  let digits := cs.takeWhile Char.isDigit
  if digits.isEmpty then
    match cs with
    | c :: rest => (g.value? c).map fun n => (n, rest)
    | [] => none
  else
    some (digits.foldl (fun n c => 10 * n + (c.toNat - 48)) 0, cs.drop digits.length)

def Group.condition? (g : Group) (cs : List Char) : Option (Bool × List Char) := do
  let (a, cs) ← g.operand? cs
  match cs with
  | '=' :: cs =>
    let (b, cs) ← g.operand? cs
    match cs with
    | '?' :: cs => some (a == b, cs)
    | _ => none
  | _ => none

def Formats.lines (lines : Array Line) (start count : Nat) (format : String) : String :=
  String.join ((slice lines start count).zipIdx.map fun (l, i) =>
    formatLine (start + i + 1) l (format.length + 1) format.toList)

def Formats.group (f : Formats) (g : Group) :
    Nat → Option Char → List Char → String → String × List Char
  | 0, _, cs, out => (out, cs)
  | _, _, [], out => (out, [])
  | fuel + 1, close, c :: cs, out =>
    if some c == close then (out, cs)
    else if c ≠ '%' then f.group g fuel close cs (out.push c)
    else
      match cs with
      | '%' :: rest => f.group g fuel close rest (out.push '%')
      | '<' :: rest =>
        f.group g fuel close rest
          (out ++ Formats.lines g.sides.old g.place.old g.place.removed f.oldLine)
      | '=' :: rest =>
        f.group g fuel close rest
          (out ++ Formats.lines g.sides.old g.place.old g.place.removed f.sameLine)
      | '>' :: rest =>
        f.group g fuel close rest
          (out ++ Formats.lines g.sides.new g.place.new g.place.added f.newLine)
      | '(' :: more =>
        match g.condition? more with
        | some (holds, more) =>
          let (first, more) := f.group g fuel (some ':') more ""
          let (second, more) := f.group g fuel (some ')') more ""
          f.group g fuel close more (out ++ if holds then first else second)
        | none => f.group g fuel close cs (out.push '%')
      | 'c' :: more =>
        match character? more with
        | some (c, rest) => f.group g fuel close rest (out.push c)
        | none => f.group g fuel close cs (out.push '%')
      | _ =>
        match numeral? cs with
        | some (n, letter :: rest) =>
          match g.value? letter with
          | some value => f.group g fuel close rest (out ++ n.write value)
          | none => f.group g fuel close cs (out.push '%')
        | _ => f.group g fuel close cs (out.push '%')

def showFormatted (f : Formats) (s : Sides) (changes : List Stretch) : Tool Unit := do
  let write (format : String) (c : Stretch) : Tool Unit :=
    put (f.group { sides := s, place := c } (format.length + 1) none format.toList "").1
  let same (i j stop : Nat) : Tool Unit := do
    if i < stop then write f.same { old := i, removed := stop - i, new := j, added := stop - i }
  let (i, j) ← changes.foldlM (fun (i, j) c => do
    same i j c.old
    write (if c.removed = 0 then f.new else if c.added = 0 then f.old else f.changed) c
    return (c.old + c.removed, c.new + c.added)) (0, 0)
  same i j s.old.size

def formatOptions : List String :=
  ["line-format", "old-line-format", "new-line-format", "unchanged-line-format",
    "old-group-format", "new-group-format", "unchanged-group-format", "changed-group-format", "D"]

def formatsOf (options : List (String × String)) : Tool (Option Formats) := do
  let chosen := options.filter fun o => formatOptions.contains o.1
  if chosen.isEmpty then return none
  let named ← chosen.foldlM (fun (named : List (String × String)) (key, value) => do
    let parts : List (String × String) := match key with
      | "line-format" =>
        [("old-line-format", value), ("new-line-format", value), ("unchanged-line-format", value)]
      | "D" => [
        ("unchanged-group-format", "%="),
        ("old-group-format",
          "#ifndef " ++ value ++ "\n%<#endif /* ! " ++ value ++ " */\n"),
        ("new-group-format", "#ifdef " ++ value ++ "\n%>#endif /* " ++ value ++ " */\n"),
        ("changed-group-format", "#ifndef " ++ value ++ "\n%<#else /* " ++ value ++
          " */\n%>#endif /* " ++ value ++ " */\n")]
      | key => [(key, value)]
    for (part, text) in parts do
      if (named.lookup part).any (· != text) then
        refuse ("conflicting " ++ (if key == "D" then "-D" else "--" ++ key) ++ " option value " ++
          quotedAlways value)
    return named ++ parts) []
  let find (part usual : String) : String := (named.lookup part).getD usual
  let changed? := named.lookup "changed-group-format"
  let old := find "old-group-format" (changed?.getD "%<")
  let new := find "new-group-format" (changed?.getD "%>")
  return some {
    oldLine := find "old-line-format" "%l\n"
    newLine := find "new-line-format" "%l\n"
    sameLine := find "unchanged-line-format" "%l\n"
    old
    new
    same := find "unchanged-group-format" "%="
    changed := changed?.getD (old ++ new) }

end Remedy.Tool.Comparing
