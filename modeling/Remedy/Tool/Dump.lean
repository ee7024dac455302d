import Remedy.Decimal.Quantity
import Remedy.Text.Utf8
import Remedy.Tool.Basic

namespace Remedy.Tool.Dump

open Unix Files

inductive Cell where
  | named
  | char
  | octal (size : Nat)
  | hexadecimal (size : Nat)
  | unsigned (size : Nat)
  | signed (size : Nat)
  | floating (size : Nat)
deriving DecidableEq, Repr

/-- Cells of one kind side by side, with the text at the end of the row or without it. -/
structure Form where
  cell : Cell
  showsText : Bool := false

def Cell.size : Cell → Nat
  | .named | .char => 1
  | .octal n | .hexadecimal n | .unsigned n | .signed n | .floating n => n

def bitsOf (size : Nat) : Nat := 8 * size

def Cell.width : Cell → Nat
  | .named | .char => 3
  | .octal n => [0, 3, 6, 0, 11, 0, 0, 0, 22].getD n 0
  | .hexadecimal n => 2 * n
  | .unsigned n => [0, 3, 5, 0, 10, 0, 0, 0, 20].getD n 0
  | .signed n => [0, 4, 6, 0, 11, 0, 0, 0, 20].getD n 0
  | .floating n => if n = 4 then 15 else if n = 8 then 24 else 29

def names : List String :=
  ["nul", "soh", "stx", "etx", "eot", "enq", "ack", "bel", "bs", "ht", "nl", "vt", "ff", "cr", "so",
    "si", "dle", "dc1", "dc2", "dc3", "dc4", "nak", "syn", "etb", "can", "em", "sub", "esc", "fs",
    "gs", "rs", "us", "sp"]

def isVisible (c : Char) : Bool := ' ' ≤ c && c < '\x7f'

structure FloatLayout where
  exponentBits : Nat
  fractionBits : Nat
  hasWhole : Bool := false
  /-- How many decimal digits always survive, and how many always suffice. -/
  fewest : Nat
  most : Nat

def FloatLayout.ofSize (size : Nat) : FloatLayout :=
  if size = 4 then { exponentBits := 8, fractionBits := 23, fewest := 6, most := 9 }
  else if size = 8 then { exponentBits := 11, fractionBits := 52, fewest := 15, most := 17 }
  else { exponentBits := 15, fractionBits := 63, hasWhole := true, fewest := 18, most := 21 }

def roundsTo (coefficient : Nat) (exponent : Int) (isLowEdge : Bool) (num den : Nat) : Bool :=
  let quotient (e : Int) : Nat :=
    Decimal.roundDiv (num * twoTo (-e).toNat) (den * twoTo e.toNat)
  let isBelow := num * twoTo (-exponent).toNat < coefficient * (den * twoTo exponent.toNat)
  if isLowEdge && isBelow then quotient (exponent - 1) = 2 * coefficient
  else quotient exponent = coefficient

def readBack (num den : Nat) (isReadBack : Nat → Nat → Bool) : Nat → Nat → String
  | 0, digits => Decimal.Quantity.general num den digits false
  | n + 1, digits =>
    let (d, e) := Decimal.Quantity.significant num den (digits - 1)
    let shift := e - (digits - 1 : Nat)
    if isReadBack (d * tenTo shift.toNat) (tenTo (-shift).toNat) then
      Decimal.Quantity.general num den digits false
    else readBack num den isReadBack n (digits + 1)

def FloatLayout.text (l : FloatLayout) (value : Nat) : String :=
  let stored := l.fractionBits + (if l.hasWhole then 1 else 0)
  let sign := if value / twoTo (stored + l.exponentBits) % 2 = 1 then "-" else ""
  let exponent := value / twoTo stored % twoTo l.exponentBits
  let fraction := value % twoTo l.fractionBits
  let isWhole := if l.hasWhole then value / twoTo l.fractionBits % 2 = 1 else exponent > 0
  if exponent = twoTo l.exponentBits - 1 && isWhole then
    sign ++ (if fraction = 0 then "inf" else "nan")
  else if exponent > 0 && !isWhole then sign ++ "nan"
  else
    let coefficient := fraction + (if isWhole then twoTo l.fractionBits else 0)
    if coefficient = 0 then sign ++ "0"
    else
      let bias : Int := (twoTo (l.exponentBits - 1) : Int) - 1 + l.fractionBits
      let e : Int := (max exponent 1 : Nat) - bias
      let num := coefficient * twoTo e.toNat
      let den := twoTo (-e).toNat
      let isLowEdge := fraction = 0 && exponent > 1
      let first := if isWhole then l.fewest else 1
      sign ++ readBack num den (roundsTo coefficient e isLowEdge) (l.most - first) first

def Cell.text (u : Cell) (bytes : List Nat) : String :=
  let value := bytes.reverse.foldl (fun n b => 256 * n + b) 0
  let zeros (width : Nat) (base : Nat) : String :=
    let ds := String.ofList (Nat.toDigits base value)
    "".pushn '0' (width - ds.length) ++ ds
  match u with
  | .named =>
    let n := value % 128
    if n = 127 then "del" else (names[n]?).getD (String.singleton (Char.ofNat n))
  | .char =>
    match Char.ofNat value with
    | '\x00' => "\\0"
    | '\x07' => "\\a"
    | '\x08' => "\\b"
    | '\t' => "\\t"
    | '\n' => "\\n"
    | '\x0b' => "\\v"
    | '\x0c' => "\\f"
    | '\r' => "\\r"
    | c => if isVisible c then String.singleton c else zeros 3 8
  | .octal _ => zeros u.width 8
  | .hexadecimal _ => zeros u.width 16
  | .unsigned _ => toString value
  | .signed n =>
    let top : Int := (2 : Int).pow (bitsOf n)
    let v : Int := value
    toString (if 2 * v ≥ top then v - top else v)
  | .floating n => (FloatLayout.ofSize n).text value

inductive BadType where
  | letter (c : Char)
  | malformed
  | noSuchSize (size : String) (isFloating : Bool)
deriving DecidableEq, Repr

def BadType.message (whole : String) : BadType → String
  | .letter c =>
    "invalid character '" ++ String.singleton c ++ "' in type string " ++ quotedAlways whole
  | .malformed => "invalid type string " ++ quotedAlways whole
  | .noSuchSize size isFloating =>
    "invalid type string " ++ quotedAlways whole ++ ";\nthis system doesn't provide a " ++ size ++
      "-byte " ++ (if isFloating then "floating point" else "integral") ++ " type"

def sizeOf? (isFloating : Bool) (usual : Nat) (cs : List Char) :
    Except BadType (Nat × List Char) :=
  let words : List (Char × Nat) :=
    if isFloating then [('F', 4), ('D', 8), ('L', 16)]
    else [('C', 1), ('S', 2), ('I', 4), ('L', 8)]
  match cs.head?.bind fun c => words.lookup c with
  | some n => .ok (n, cs.drop 1)
  | none =>
    let digits := cs.takeWhile Char.isDigit
    let n := digits.foldl (fun n c => 10 * n + (c.toNat - 48)) 0
    if digits.isEmpty then .ok (usual, cs)
    else if n ≥ twoTo 31 then .error .malformed
    else if (words.map (·.2)).contains n then .ok (n, cs.drop digits.length)
    else .error (.noSuchSize (toString n) isFloating)

def formsOf : Nat → List Char → Except BadType (List Form)
  | 0, _ => .ok []
  | _, [] => .ok []
  | n + 1, c :: cs => do
    let sized (f : Nat → Cell) (isFloating : Bool) (usual : Nat) :
        Except BadType (Cell × List Char) := do
      let (size, rest) ← sizeOf? isFloating usual cs
      return (f size, rest)
    let (cell, rest) ← match c with
      | 'a' => .ok (Cell.named, cs)
      | 'c' => .ok (.char, cs)
      | 'o' => sized .octal false 4
      | 'x' => sized .hexadecimal false 4
      | 'u' => sized .unsigned false 4
      | 'd' => sized .signed false 4
      | 'f' => sized .floating true 8
      | c => .error (.letter c)
    let (showsText, rest) := match rest with
      | 'z' :: rest => (true, rest)
      | rest => (false, rest)
    return { cell, showsText } :: (← formsOf n rest)

def typeOfLetter? (key : String) : Option String :=
  match key with
  | "a" => some "a"
  | "b" => some "o1"
  | "c" => some "c"
  | "d" => some "u2"
  | "f" => some "fF"
  | "e" | "F" => some "fD"
  | "h" | "x" => some "x2"
  | "i" => some "dI"
  | "l" | "L" | "I" => some "dL"
  | "o" | "B" => some "o2"
  | "O" => some "o4"
  | "D" => some "u4"
  | "H" | "X" => some "x4"
  | "s" => some "d2"
  | _ => none

def Form.row (f : Form) (block perBlock : Nat) (width : Nat) (isBig : Bool) (bytes : List Nat) :
    String :=
  let size := f.cell.size
  let count := (bytes.length + size - 1) / size
  let units := (List.range count).map fun i =>
    let own := (bytes.drop (i * size)).take size
    let own := own ++ List.replicate (size - own.length) 0
    f.cell.text (if isBig then own.reverse else own)
  let perRow := width / size
  -- the blanks of a row are shared out among its cells
  let total := perBlock * perRow / max 1 (block / size)
  let blanks := total - f.cell.width * perRow
  let step (i : Nat) : Nat :=
    let left := perRow - i
    blanks * left / max 1 perRow - blanks * (left - 1) / max 1 perRow
  let cells := units.zipIdx.map fun (s, i) => "".pushn ' ' (step i) ++ padLeft s f.cell.width
  let line := String.join cells
  if f.showsText then
    let text := String.ofList (bytes.map fun b =>
      if isVisible (Char.ofNat b) then Char.ofNat b else '.')
    padRight line total ++ "  >" ++ text ++ "<"
  else line

def offsetText (radix : Char) (n : Nat) : String :=
  let digits (base width : Nat) : String :=
    let ds := String.ofList (Nat.toDigits base n)
    "".pushn '0' (width - ds.length) ++ ds
  match radix with
  | 'd' => digits 10 7
  | 'x' => digits 16 6
  | 'n' => ""
  | _ => digits 8 7

def basedSize (text : String) : Except Misread Nat :=
  let letters := "bEGkKmMPTYZRQ0"
  let inBase (base : Nat) (isDigit : Char → Bool) (cs : List Char) : Except Misread Nat :=
    let digits := cs.takeWhile isDigit
    let n := Decimal.Quantity.digitsValue base digits
    let rest := cs.drop digits.length
    if rest.head?.any Char.isDigit then .error .suffix
    else sized letters (toString n ++ String.ofList rest)
  match text.toList with
  | '0' :: 'x' :: c :: cs | '0' :: 'X' :: c :: cs =>
    if Decimal.Quantity.isHexadecimal c then inBase 16 Decimal.Quantity.isHexadecimal (c :: cs)
    else sized letters text
  | '0' :: cs => inBase 8 (fun c => '0' ≤ c && c ≤ '7') ('0' :: cs)
  | _ => sized letters text

structure Plan where
  radix : Char := 'o'
  skipped : Nat := 0
  limit : Option Nat := none
  forms : List Form := []
  width : Option Nat := none
  text : Option Nat := none
  isBig : Bool := false
  showsAll : Bool := false
  isOld : Bool := false
  isModern : Bool := false
  isSound : Bool := true

def Plan.take (p : Plan) (key argument : String) : Tool Plan := do
  let option := if key.length = 1 then "-" ++ key else "--" ++ key
  let sizeHere (a : String) : Tool Nat :=
    match basedSize a with
    | .ok n => return n
    | .error m => refuseSize option a m 1
  let addForms (p : Plan) (type : String) : Tool Plan := do
    match formsOf (type.length + 1) type.toList with
    | .ok fs => return { p with forms := p.forms ++ fs }
    | .error e =>
      complain (e.message type)
      return { p with isSound := false }
  match typeOfLetter? key with
  | some type => addForms p type
  | none =>
    let p := { p with isModern := p.isModern || key != "traditional" }
    match key with
    | "A" =>
      match argument.toList with
      | c :: _ =>
        if "doxn".toList.contains c then return { p with radix := c }
        else fail 1 ("invalid output address radix " ++ marked (String.singleton c) ++
          "; it must be one character from [doxn]")
      | [] => fail 1 "invalid output address radix '\x00'; it must be one character from [doxn]"
    | "j" | "skip-bytes" => return { p with skipped := ← sizeHere argument }
    | "N" | "read-bytes" => return { p with limit := some (← sizeHere argument) }
    | "S" | "strings" =>
      if argument == "" && key != "S" then return { p with text := some 3 }
      else return { p with text := some (← sizeHere argument) }
    | "t" => addForms p argument
    | "v" => return { p with showsAll := true }
    | "w" | "width" =>
      if argument == "" then return { p with width := some 32 }
      else
        match sized "" argument with
        | .ok n => return { p with width := some n }
        | .error m => refuseSize option argument m 1
    | "endian" =>
      let choice ← choose "--endian" [["little"], ["big"]] argument
      return { p with isBig := choice == "big" }
    | _ => return { p with isOld := true }

def oldOffset? (text : String) : Option Nat :=
  let cs := match text.toList with
    | '+' :: rest => rest
    | cs => cs
  let (cs, scale) := match cs.reverse with
    | 'b' :: rest => (rest.reverse, 512)
    | 'B' :: rest => (rest.reverse, 1024)
    | _ => (cs, 1)
  let value (base : Nat) (isDigit : Char → Bool) (cs : List Char) : Option Nat :=
    if !cs.isEmpty && cs.all isDigit then some (scale * Decimal.Quantity.digitsValue base cs)
    else none
  match cs with
  | '0' :: 'x' :: rest | '0' :: 'X' :: rest => value 16 Decimal.Quantity.isHexadecimal rest
  | cs =>
    value 8 (fun c => '0' ≤ c && c ≤ '7') cs

/-- The paths and the offset among the operands, where an offset may stand among them. -/
def Plan.operands (p : Plan) (words : List String) : List String × Option Nat :=
  if p.isModern && !p.isOld then (words, none)
  else
    let isOffset (w : String) (isSecond : Bool) : Bool :=
      p.isOld || w.startsWith "+" || (isSecond && w.toList.head?.any Char.isDigit)
    match words with
    | [w] =>
      match if isOffset w false then oldOffset? w else none with
      | some n => ([], some n)
      | none => (words, none)
    | [path, w] =>
      match if isOffset w true then oldOffset? w else none with
      | some n => ([path], some n)
      | none => (words, none)
    | _ => (words, none)

def od (words : List String) : Tool Unit := do
  let g ← given (letters "abBcdDeFhHiIlLoOsXxf" ++ [opt 'A' "address-radix" .argument,
    opt 't' "format" .argument, opt 'N' "" .argument, long "read-bytes" .argument,
    opt 'j' "" .argument, long "skip-bytes" .argument, opt 'v' "output-duplicates",
    opt 'w' "" .maybe, long "width" .maybe, opt 'S' "" .argument, long "strings" .maybe,
    long "endian" .argument, long "traditional"]) words
  let p ← g.options.foldlM (fun p (key, argument) => Plan.take p key argument) ({} : Plan)
  unless p.isSound do
    note 1
    stop
  if p.text.isSome && !p.forms.isEmpty then
    fail 1 "no type may be specified when dumping strings"
  let fs := if p.forms.isEmpty then [{ cell := .octal 2 }] else p.forms
  let (paths, offset) := p.operands g.operands
  if p.isOld && paths.length > 1 then
    complain ("extra operand " ++ quotedAlways (paths.getD 1 ""))
    refuse 1 "compatibility mode supports at most one file"
  let skip := offset.getD p.skipped
  let paths := if paths.isEmpty then ["-"] else paths
  let texts ← collect skip p.limit paths 0 []
  if !(texts.isEmpty && (← get).status ≠ 0) then
    let all := (String.join texts).toList
    if skip > all.length then fail 1 "cannot skip past end of combined input"
    let cs := all.drop skip
    let bytes := (match p.limit with
      | some n => cs.take n
      | none => cs).map Char.toNat
    let block := fs.foldl (fun n f => Nat.lcm n f.cell.size) 1
    let width ← match p.width with
      | none => pure (if block > 16 then block else 16 / block * block)
      | some n =>
        if n ≠ 0 && n % block = 0 then pure n
        else
          complain ("warning: invalid width " ++ toString n ++ "; using " ++ toString block ++
            " instead")
          pure block
    let perBlock := fs.foldl (fun n f =>
      max n ((f.cell.width + 1) * (block / f.cell.size))) 0
    match p.text with
    | some least => showTexts p.radix least skip bytes
    | none =>
      let rows := (List.range ((bytes.length + width - 1) / max 1 width)).map fun i =>
        (skip + i * width, (bytes.drop (i * width)).take width)
      showRows fs p.radix block perBlock width p.isBig p.showsAll rows none false
      let last := offsetText p.radix (skip + bytes.length)
      if last != "" then putLine last
where
  collect (skip : Nat) (limit : Option Nat) :
      List String → Nat → List String → Tool (List String)
    | [], _, texts => return texts.reverse
    | path :: rest, got, texts => do
      let wanted := limit.map (· + skip - got)
      if wanted == some 0 then return texts.reverse
      let text : Except Errno String ← match wanted with
        | none => readAll path
        | some n => do
          match ← if path == "-" then pure (.ok 0) else sys (.open path .input) with
          | .error e => pure (.error e)
          | .ok fd =>
            let text ← upTo fd n Unix.Act.limit ""
            if fd ≠ 0 then
              let _ ← sys (.close fd)
            pure (.ok text)
      match text with
      | .ok text => collect skip limit rest (got + text.length) (text :: texts)
      | .error e =>
        complain (quoted path ++ ": " ++ e.message)
        note 1
        -- a directory can be opened, but not read
        collect skip limit rest got (if e = .isDirectory then "" :: texts else texts)
  upTo (fd count : Nat) : Nat → String → Tool String
    | 0, got => return got
    | n + 1, got => do
      if got.length ≥ count then return got
      else
        match ← sys (.read fd (count - got.length)) with
        | .ok data =>
          if data.isEmpty then return got
          else upTo fd count n (got ++ Text.Octets.ofBytes data)
        | .error _ => return got
  showRows (fs : List Form) (radix : Char) (block perBlock width : Nat) (isBig all : Bool) :
      List (Nat × List Nat) → Option (List Nat) → Bool → Tool Unit
    | [], _, _ => return
    | (offset, bytes) :: rest, last, isSkipping => do
      if !all && last == some bytes && !rest.isEmpty then
        unless isSkipping do putLine "*"
        showRows fs radix block perBlock width isBig all rest last true
      else if !all && last == some bytes && bytes.length = width then
        unless isSkipping do putLine "*"
      else
        let head := offsetText radix offset
        let blank := "".pushn ' ' head.length
        fs.zipIdx.forM fun (f, i) =>
          putLine ((if i = 0 then head else blank) ++ f.row block perBlock width isBig bytes)
        showRows fs radix block perBlock width isBig all rest (some bytes) false
  showTexts (radix : Char) (least start : Nat) (bytes : List Nat) : Tool Unit := do
    let rec go : List Nat → Nat → List Char → Tool Unit
      | [], _, _ => return
      | b :: rest, offset, got => do
        let c := Char.ofNat b
        if isVisible c then go rest (offset + 1) (c :: got)
        else
          if b = 0 && got.length ≥ least then
            let head := offsetText radix (start + offset - got.length)
            putLine ((if head == "" then "" else head ++ " ") ++ String.ofList got.reverse)
          go rest (offset + 1) []
    go bytes 0 []

def catalogue : List (String × (List String → Tool Unit)) := [("od", od)]

end Remedy.Tool.Dump
