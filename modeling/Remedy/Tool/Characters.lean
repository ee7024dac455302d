import Remedy.Regex.Basic
import Remedy.Shell.Arithmetic
import Remedy.Text.Directive
import Remedy.Tool.Input

namespace Remedy.Tool.Characters

inductive Piece where
  | char (c : Char)
  | range (low high : Char)
  | named (name : String)
  | same (c : Char)
  /-- A character so many times; none means as often as there is need. -/
  | repeated (c : Char) (count : Nat)

/-- Characters with their escapes read; `true` marks what was escaped. -/
def unescape : Nat → List Char → List (Char × Bool)
  | 0, _ => []
  | _, [] => []
  | n + 1, '\\' :: cs =>
    match cs with
    | [] => [('\\', false)]
    | c :: rest =>
      let letter (d : Char) := (d, true) :: unescape n rest
      match c with
      | 'a' => letter '\x07'
      | 'b' => letter '\x08'
      | 'f' => letter '\x0c'
      | 'n' => letter '\n'
      | 'r' => letter '\r'
      | 't' => letter '\t'
      | 'v' => letter '\x0b'
      | c =>
        let isOctal (c : Char) : Bool := '0' ≤ c && c ≤ '7'
        let digits := (cs.take 3).takeWhile isOctal
        if digits.isEmpty then letter c
        else
          let value : Nat := digits.foldl (fun n c => 8 * n + (c.toNat - 48)) 0
          -- three digits may be too much for an octet
          let digits := if value > 255 then digits.take 2 else digits
          let value : Nat := digits.foldl (fun n c => 8 * n + (c.toNat - 48)) 0
          (Char.ofNat value, true) :: unescape n (cs.drop digits.length)
  | n + 1, c :: cs => (c, false) :: unescape n cs

def bracket? (cs : List (Char × Bool)) : Option (Except String (Piece × List (Char × Bool))) :=
  let closing (mark : Char) (cs : List (Char × Bool)) : Option (List (Char × Bool) × List (Char × Bool)) :=
    let n := (cs.zip (cs.drop 1)).findIdx? fun (a, b) =>
      a == (mark, false) && b == (']', false)
    n.map fun n => (cs.take n, cs.drop (n + 2))
  match cs with
  | ('[', false) :: (':', false) :: rest =>
    (closing ':' rest).map fun (inner, after) =>
      let name := String.ofList (inner.map (·.1))
      if (CharSet.class? name).isSome then .ok (.named name, after)
      else .error ("invalid character class " ++ quotedAlways name)
  | ('[', false) :: ('=', false) :: rest =>
    (closing '=' rest).bind fun (inner, after) =>
      match inner with
      | [(c, _)] => some (.ok (.same c, after))
      | _ => some (.error (quoted (String.ofList (inner.map (·.1))) ++
          ": equivalence class operand must be a single character"))
  | ('[', false) :: (c, _) :: ('*', false) :: rest =>
    let digits := rest.takeWhile fun (d, escaped) => d.isDigit && !escaped
    match rest.drop digits.length with
    | (']', false) :: after =>
      let ds := digits.map (·.1)
      let n := if ds.head? = some '0' then
          ds.foldl (fun n d => 8 * n + (d.toNat - 48)) 0
        else ds.foldl (fun n d => 10 * n + (d.toNat - 48)) 0
      some (.ok (.repeated c n, after))
    | _ => none
  | _ => none

def pieces : Nat → List (Char × Bool) → Except String (List Piece)
  | 0, _ => .ok []
  | _, [] => .ok []
  | n + 1, (c, escaped) :: cs => do
    match bracket? ((c, escaped) :: cs) with
    | some found =>
      let (piece, rest) ← found
      return piece :: (← pieces n rest)
    | none =>
      match cs with
      | ('-', false) :: (d, _) :: rest =>
        if d < c then
          .error ("range-endpoints of '" ++ String.ofList [c, '-', d] ++
            "' are in reverse collating sequence order")
        else return .range c d :: (← pieces n rest)
      | cs => return .char c :: (← pieces n cs)

def charsOf (ranges : List (Char × Char)) : List Char :=
  ((List.range 256).map Char.ofNat).filter fun c => ranges.any fun (a, b) => a ≤ c && c ≤ b

def Piece.chars : Piece → List Char
  | .char c | .same c => [c]
  | .range a b => ((List.range (b.toNat + 1 - a.toNat)).map fun i => Char.ofNat (a.toNat + i))
  | .named name => charsOf ((CharSet.class? name).getD [])
  | .repeated c n => List.replicate n c

def filledTo (ps : List Piece) (length : Nat) : List Char :=
  let fixed := (ps.map fun p => p.chars.length).foldl (· + ·) 0
  let cs := ps.flatMap fun p =>
    match p with
    | .repeated c 0 => List.replicate (length - fixed) c
    | p => p.chars
  match cs.getLast? with
  | some c => cs ++ List.replicate (length - cs.length) c
  | none => cs

def caseOffsets : List Piece → Nat → List Nat
  | [], _ => []
  | p :: ps, n =>
    let rest := caseOffsets ps (n + p.chars.length)
    match p with
    | .named "upper" | .named "lower" => n :: rest
    | _ => rest

/-- What becomes of every octet: replaced by another one or left out. -/
structure Table where
  replaced : Array Char
  deleted : Array Bool
  squeezed : Array Bool

def Table.apply (t : Table) (last : Option Char) (cs : List Char) : List Char × Option Char :=
  let (out, last) := cs.foldl (fun (out, last) c =>
    if t.deleted.getD c.toNat false then (out, last)
    else
      let d := t.replaced.getD c.toNat c
      if last == some d && t.squeezed.getD d.toNat false then (out, last)
      else (d :: out, some d)) (([] : List Char), last)
  (out.reverse, last)

def marks (cs : List Char) : Array Bool :=
  cs.foldl (fun a c => a.setIfInBounds c.toNat true) (Array.replicate 256 false)

def octets : List Char := (List.range 256).map Char.ofNat

def tr (words : List String) : Tool Unit := do
  let g ← given [opt 'c' "complement", opt 'C' "", opt 'd' "delete", opt 's' "squeeze-repeats",
    opt 't' "truncate-set1"] words true
  let deletes := g.has "d"
  let squeezes := g.has "s"
  let least := if deletes == squeezes then 2 else 1
  let most := if deletes && !squeezes then 1 else 2
  match g.operands with
  | [] => refuse 1 "missing operand"
  | [a] =>
    if least > 1 then
      complain ("missing operand after " ++ quotedAlways a)
      writeError (if squeezes then
          "Two strings must be given when both deleting and squeezing repeats.\n"
        else "Two strings must be given when translating.\n")
      writeError ("Try '" ++ (← get).name ++ " --help' for more information.\n")
      setStatus 1
      stop
  | _ => pure ()
  match g.operands[most]? with
  | some w =>
    complain ("extra operand " ++ quotedAlways w)
    if most = 1 && g.operands.length = 2 then
      writeError "Only one string may be given when deleting without squeezing repeats.\n"
    writeError ("Try '" ++ (← get).name ++ " --help' for more information.\n")
    setStatus 1
    stop
  | none => pure ()
  let read (text : String) : Tool (List Piece) := do
    let cs := text.toList
    if (cs.reverse.takeWhile (· == '\\')).length % 2 = 1 then
      complain "warning: an unescaped backslash at end of string is not portable"
    match pieces (cs.length + 1) (unescape (cs.length + 1) cs) with
    | .ok ps => return ps
    | .error message => fail 1 message
  let first ← read (g.operands.headD "")
  let second ← match g.operands[1]? with
    | some text => do
      let ps ← read text
      pure (some ps)
    | none => pure none
  let isComplement := g.has "c" || g.has "C"
  if first.any fun p => match p with
      | .repeated _ 0 => true
      | _ => false then
    fail 1 "the [c*] repeat construct may not appear in string1"
  let plain := first.flatMap Piece.chars
  let chosen := if isComplement then octets.filter fun c => !plain.contains c else plain
  let translates := second.isSome && !deletes
  let identity := octets.toArray
  let table : Table ← do
    if translates then
      let ps := second.getD []
      let cs := filledTo ps chosen.length
      if ps.any fun p => match p with
          | .named name => name != "upper" && name != "lower"
          | _ => false then
        fail 1 ("when translating, the only character classes that may appear in\n" ++
          "string2 are 'upper' and 'lower'")
      if isComplement && (first.any fun p => match p with
          | .named _ => true
          | _ => false) && cs.any (some · != cs.head?) then
        fail 1 ("when translating with complemented character classes,\n" ++
          "string2 must map all characters in the domain to one")
      if !isComplement && (caseOffsets ps 0).any fun n => !(caseOffsets first 0).contains n then
        fail 1 "misaligned [:upper:] and/or [:lower:] construct"
      if cs.isEmpty && !g.has "t" then
        fail 1 "when not truncating set1, string2 must be non-empty"
      let cs := if g.has "t" then (ps.flatMap Piece.chars) else cs
      let replaced := (chosen.zip cs).foldl (fun a (c, d) => a.setIfInBounds c.toNat d) identity
      pure { replaced, deleted := marks [], squeezed := if squeezes then marks cs else marks [] }
    else
      let other := (second.getD []).flatMap Piece.chars
      pure { replaced := identity, deleted := if deletes then marks chosen else marks []
             squeezed := if !squeezes then marks []
               else if deletes then marks other else marks chosen }
  let rec go : Nat → Option Char → Tool Unit
    | 0, _ => return
    | n + 1, last => do
      match ← sys (.read 0 Unix.Act.block) with
      | .error e => fail 1 ("read error: " ++ e.message)
      | .ok data =>
        if !data.isEmpty then
          let (out, last) := table.apply last (Text.Octets.ofBytes data).toList
          put (String.ofList out)
          go n last
  go Unix.Act.limit none

/-- Ranges of positions, counted from one; a missing end goes on for ever. -/
abbrev Ranges := List (Nat × Option Nat)

def inRanges (rs : Ranges) (n : Nat) : Bool := rs.any fun (a, b) => a ≤ n && b.all (n ≤ ·)

def ranges (isFields : Bool) (text : String) : Except String Ranges :=
  let invalid (rest : List Char) : Except String (Nat × Option Nat) :=
    .error ((if isFields then "invalid field value " else "invalid byte/character position ") ++
      quotedAlways (String.ofList rest))
  let fromOne : Except String (Nat × Option Nat) :=
    .error (if isFields then "fields are numbered from 1"
      else "byte/character positions are numbered from 1")
  let words := (text.toList.map fun c => if c == ' ' || c == '\t' then ',' else c)
  ((String.ofList words).splitOn ",").mapM fun word =>
    let cs := word.toList
    let low := cs.takeWhile Char.isDigit
    match cs.drop low.length with
    | [] =>
      match natural? (String.ofList low) with
      | some 0 => fromOne
      | some n => .ok (n, some n)
      | none => fromOne
    | '-' :: rest =>
      let high := rest.takeWhile Char.isDigit
      if high.length < rest.length then invalid (rest.drop high.length)
      else if low.isEmpty && high.isEmpty then
        .error "invalid range with no endpoint: -"
      else
        let a := if low.isEmpty then 1 else (natural? (String.ofList low)).getD 1
        if a = 0 then fromOne
        else
          match natural? (String.ofList high) with
          | none => .ok (a, none)
          | some b => if b < a then .error "invalid decreasing range" else .ok (a, some b)
    | rest => invalid rest

def startsRange (rs : Ranges) (n : Nat) : Bool :=
  rs.any fun (a, _) => a = n && !(rs.any fun (c, d) => c < n && d.all (n ≤ ·))

def cut (words : List String) : Tool Unit := do
  let g ← given [opt 'b' "bytes" .argument, opt 'c' "characters" .argument,
    opt 'f' "fields" .argument, opt 'd' "delimiter" .argument, opt 's' "only-delimited", opt 'n' "",
    long "complement", long "output-delimiter" .argument, opt 'z' "zero-terminated"] words
  let delimiter ← match g.argument? "d" with
    | none => pure '\t'
    | some d =>
      match d.toList with
      | [] => pure '\x00'
      | [c] => pure c
      | _ => refuse 1 "the delimiter must be a single character"
  let lists := g.options.filter fun o => ["b", "c", "f"].contains o.1
  let (key, text) ← match lists with
    | [] => refuse 1 "you must specify a list of bytes, characters, or fields"
    | [o] => pure o
    | _ => refuse 1 "only one list may be specified"
  let isFields := key == "f"
  if !isFields && g.has "d" then
    refuse 1 "an input delimiter may be specified only when operating on fields"
  if !isFields && g.has "s" then
    refuse 1 "suppressing non-delimited lines makes sense\n\tonly when operating on fields"
  let rs ← match ranges isFields text with
    | .ok rs => pure rs
    | .error message => refuse 1 message
  let isWanted (n : Nat) : Bool := inRanges rs n != g.has "complement"
  let end_ := if g.has "z" then '\x00' else '\n'
  let glue := g.argument? "output-delimiter"
  let i := { Input.ofPaths g.operands with separator := end_ }
  foldLines i () fun _ line _ => do
    if isFields then
      let fields := line.splitOn (String.singleton delimiter)
      match fields with
      | [_] => unless g.has "s" do put (line.push end_)
      | fields =>
        let chosen := (fields.zipIdx.filter fun (_, k) => isWanted (k + 1)).map (·.1)
        put ((glue.getD (String.singleton delimiter)).intercalate chosen |>.push end_)
    else
      let chosen := line.toList.zipIdx.filter fun (_, k) => isWanted (k + 1)
      match glue with
      | none => put ((String.ofList (chosen.map (·.1))).push end_)
      | some glue =>
        let text := chosen.zipIdx.map fun ((c, k), place) =>
          let isNew := place > 0 && (startsRange rs (k + 1) || !isWanted k)
          (if isNew then glue else "") ++ String.singleton c
        put ((String.join text).push end_)
    return some ()

def catalogue : List (String × (List String → Tool Unit)) := [
  ("tr", tr), ("cut", cut)]

end Remedy.Tool.Characters
