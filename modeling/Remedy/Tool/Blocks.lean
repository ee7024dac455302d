import Remedy.Tool.Basic

namespace Remedy.Tool.Blocks

open Unix Files

structure Amount where
  number : Nat := 0
  inOctets : Bool := false

def Amount.octets (a : Amount) (size : Nat) : Nat :=
  if a.inOctets then a.number else a.number * size

/-- What the letters behind a number multiply it by; an octet sign may stand behind them. -/
def scale? (s : String) : Option Nat :=
  let letters := (sizeLetters ++ "cwgtT").toList
  let cs := s.toList
  (multiplier? letters cs).orElse fun _ =>
    if s.endsWith "B" && !s.endsWith "BB" then multiplier? letters cs.dropLast else none

def number? (s : String) : Option Nat :=
  (s.splitOn "x").foldl (fun product factor => do
    let cs := factor.toList.dropWhile fun c => c == ' ' || ('\t' ≤ c && c ≤ '\r')
    let cs := match cs with
      | '+' :: rest => rest
      | cs => cs
    let digits := cs.takeWhile Char.isDigit
    let n ← natural? (String.ofList digits)
    let m ← scale? (String.ofList (cs.drop digits.length))
    return (← product) * n * m) (some 1)

def amount? (s : String) : Option Amount :=
  (number? s).map fun n => ⟨n, s.toList.contains 'B'⟩

/-- How much is told when the copy ends. -/
inductive Telling where
  | nothing
  | records
  | everything
deriving DecidableEq, Repr

structure Plan where
  source : Option String := none
  target : Option String := none
  inputSize : Nat := 512
  outputSize : Nat := 512
  blockSize : Option Nat := none
  lineSize : Nat := 0
  skipped : Amount := {}
  sought : Amount := {}
  count : Option Amount := none
  conversions : List String := []
  inputFlags : List String := []
  outputFlags : List String := []
  telling : Telling := .everything

namespace Plan

def converts (p : Plan) (name : String) : Bool := p.conversions.contains name

def sourceName (p : Plan) : String := p.source.getD "standard input"

def targetName (p : Plan) : String := p.target.getD "standard output"

def isDirect (p : Plan) : Bool :=
  p.blockSize.isSome &&
    !(["block", "unblock", "lcase", "ucase", "swab"].any p.converts)

end Plan

def conversionNames : List String :=
  ["block", "unblock", "lcase", "ucase", "sparse", "swab", "noerror", "nocreat", "excl", "notrunc",
    "sync", "fdatasync", "fsync"]

def flagNames : List String :=
  ["append", "binary", "cio", "direct", "directory", "dsync", "noatime", "nocache", "noctty",
    "nofollow", "nolinks", "nonblock", "sync", "text", "fullblock", "count_bytes", "skip_bytes",
    "seek_bytes"]

def names (known : List String) (kind text : String) : Tool (List String) := do
  let names := text.splitOn ","
  match names.find? fun n => !known.contains n with
  | some n => refuse 1 ("invalid " ++ kind ++ ": " ++ marked n)
  | none => return names

def numberFrom (least : Nat) (text : String) : Tool Amount := do
  match amount? text with
  | some a =>
    if least ≤ a.number then return a else fail 1 ("invalid number: " ++ marked text)
  | none => fail 1 ("invalid number: " ++ marked text)

def withOperand (p : Plan) (word : String) : Tool Plan := do
  let name := String.ofList (word.toList.takeWhile (· ≠ '='))
  let text := String.ofList (word.toList.drop (name.length + 1))
  if name.length = word.length then unrecognized
  else
    match name with
    | "if" => return { p with source := some text }
    | "of" => return { p with target := some text }
    | "conv" => return { p with conversions := p.conversions ++ (← names conversionNames
        "conversion" text) }
    | "iflag" => return { p with inputFlags := p.inputFlags ++ (← names flagNames
        "input flag" text) }
    | "oflag" => return { p with outputFlags := p.outputFlags ++ (← names flagNames
        "output flag" text) }
    | "status" =>
      match text with
      | "none" => return { p with telling := .nothing }
      | "noxfer" => return { p with telling := .records }
      | "progress" => return { p with telling := .everything }
      | _ => refuse 1 ("invalid status level: " ++ marked text)
    | "ibs" => return { p with inputSize := (← numberFrom 1 text).number }
    | "obs" => return { p with outputSize := (← numberFrom 1 text).number }
    | "bs" => return { p with blockSize := some (← numberFrom 1 text).number }
    | "cbs" => return { p with lineSize := (← numberFrom 1 text).number }
    | "skip" | "iseek" => return { p with skipped := ← numberFrom 0 text }
    | "seek" | "oseek" => return { p with sought := ← numberFrom 0 text }
    | "count" => return { p with count := some (← numberFrom 0 text) }
    | _ => unrecognized
where
  unrecognized : Tool Plan := refuse 1 ("unrecognized operand " ++ marked word)

def withoutContradictions (p : Plan) : Tool Plan := do
  let p := match p.blockSize with
    | some n => { p with inputSize := n, outputSize := n }
    | none => p
  let p := if p.lineSize = 0 then
      { p with conversions := p.conversions.filter fun c => c != "block" && c != "unblock" }
    else p
  if p.outputFlags.contains "fullblock" then
    refuse 1 "invalid output flag: 'fullblock'"
  for (a, b) in [("block", "unblock"), ("lcase", "ucase"), ("excl", "nocreat")] do
    if p.converts a && p.converts b then fail 1 ("cannot combine " ++ a ++ " and " ++ b)
  let octets (flags : List String) (flag : String) (a : Amount) : Amount :=
    { a with inOctets := a.inOctets || flags.contains flag }
  return { p with
    skipped := octets p.inputFlags "skip_bytes" p.skipped
    sought := octets p.outputFlags "seek_bytes" p.sought
    count := p.count.map (octets p.inputFlags "count_bytes") }

structure Conversion where
  waiting : Option UInt8 := none
  column : Nat := 0
  blanks : Nat := 0
  truncated : Nat := 0

def upper (b : UInt8) : UInt8 := if 97 ≤ b && b ≤ 122 then b - 32 else b

def lower (b : UInt8) : UInt8 := if 65 ≤ b && b ≤ 90 then b + 32 else b

def swapped : List UInt8 → List UInt8 × Option UInt8
  | a :: b :: rest =>
    let (done, left) := swapped rest
    (b :: a :: done, left)
  | [a] => ([], some a)
  | [] => ([], none)

/-- Lines filled up with blanks to one length; the octets come out last first. -/
def fill (size : Nat) (c : Conversion) (out : List UInt8) (b : UInt8) :
    Conversion × List UInt8 :=
  if b = 10 then ({ c with column := 0 }, List.replicate (size - c.column) 32 ++ out)
  else if c.column < size then ({ c with column := c.column + 1 }, b :: out)
  else ({ c with
    column := c.column + 1
    truncated := c.truncated + if c.column = size then 1 else 0 }, out)

/-- Lines without the blanks that filled them up; the octets come out last first. -/
def unfill (size : Nat) (c : Conversion) (out : List UInt8) (b : UInt8) :
    Conversion × List UInt8 :=
  let (c, out) := if c.column ≥ size then ({ c with column := 0, blanks := 0 }, 10 :: out)
    else (c, out)
  let c := { c with column := c.column + 1 }
  if b = 32 then ({ c with blanks := c.blanks + 1 }, out)
  else ({ c with blanks := 0 }, b :: (List.replicate c.blanks 32 ++ out))

def reshape (p : Plan) (c : Conversion) (data : List UInt8) : Conversion × List UInt8 :=
  let step? := if p.converts "block" then some (fill p.lineSize)
    else if p.converts "unblock" then some (unfill p.lineSize) else none
  match step? with
  | none => (c, data)
  | some step =>
    let (c, out) := data.foldl (fun (c, out) b => step c out b) (c, [])
    (c, out.reverse)

def convert (p : Plan) (c : Conversion) (data : List UInt8) : Conversion × List UInt8 :=
  let data := if p.converts "ucase" then data.map upper
    else if p.converts "lcase" then data.map lower else data
  if p.converts "swab" then
    let (data, waiting) := swapped (c.waiting.toList ++ data)
    reshape p { c with waiting } data
  else reshape p c data

def convertEnd (p : Plan) (c : Conversion) : Conversion × List UInt8 :=
  let (c, data) := reshape p { c with waiting := none } c.waiting.toList
  if p.converts "block" && c.column > 0 then
    (c, data ++ List.replicate (p.lineSize - c.column) 32)
  else if p.converts "unblock" && c.column > 0 then (c, data ++ [10])
  else (c, data)

structure Progress where
  wholeIn : Nat := 0
  partIn : Nat := 0
  wholeOut : Nat := 0
  partOut : Nat := 0
  written : Nat := 0
  held : ByteArray := .empty
  conversion : Conversion := {}
  lastRead : Option Nat := none

/-- A number of octets in a unit that leaves few digits; the nearest such number. -/
def rounded (base : Nat) (units : List String) (n : Nat) : String :=
  let rec go : List String → Nat → String
    | [], scale => toString (n / scale)
    | unit :: rest, scale =>
      let tenths := (n * 10 * 2 + scale) / (2 * scale)
      let whole := (n * 2 + scale) / (2 * scale)
      if scale = 1 then
        if n < base then toString n ++ unit else go rest (scale * base)
      else if tenths < 100 then toString (tenths / 10) ++ "." ++ toString (tenths % 10) ++ unit
      else if whole < base || rest.isEmpty then toString whole ++ unit
      else go rest (scale * base)
  go units 1

def decimalUnits : List String := [" B", " kB", " MB", " GB", " TB"]

def binaryUnits : List String := [" B", " KiB", " MiB", " GiB", " TiB"]

def tell (p : Plan) (start : Nat) (s : Progress) : Tool Unit := do
  if p.telling != .nothing then
    let count (a b : Nat) (what : String) :=
      toString a ++ "+" ++ toString b ++ " records " ++ what ++ "\n"
    writeError (count s.wholeIn s.partIn "in")
    writeError (count s.wholeOut s.partOut "out")
    let n := s.conversion.truncated
    if n > 0 then
      writeError (toString n ++ (if n = 1 then " truncated record\n" else " truncated records\n"))
    if p.telling = .everything then
      let n := s.written
      let sizes := if n < 1000 then ""
        else if n < 1024 then " (" ++ rounded 1000 decimalUnits n ++ ")"
        else " (" ++ rounded 1000 decimalUnits n ++ ", " ++ rounded 1024 binaryUnits n ++ ")"
      let micros := max 1 (((← look).clock - start) / 1000)
      let digits := toString micros
      let fraction := "".pushn '0' (6 - min 6 digits.length) ++ digits
      let seconds := String.ofList (fraction.toList.take (fraction.length - 6))
      writeError (toString n ++ (if n = 1 then " byte" else " bytes") ++ sizes ++ " copied, " ++
        (if seconds = "" then "0" else seconds) ++ "." ++
        String.ofList (fraction.toList.drop (fraction.length - 6)) ++ " s, " ++
        rounded 1000 decimalUnits (n * 1000000 / micros) ++ "/s\n")

/-- Ends with a complaint; what was copied is told all the same. -/
def quit (p : Plan) (start : Nat) (s : Progress) : Tool α := do
  tell p start s
  setStatus 1
  stop

def writeBlock (p : Plan) (start output : Nat) (s : Progress) (data : ByteArray) (isWhole : Bool) :
    Tool Progress := do
  match ← sys (.write output data) with
  | .ok _ =>
    return { s with
      written := s.written + data.size
      wholeOut := s.wholeOut + if isWhole then 1 else 0
      partOut := s.partOut + if isWhole then 0 else 1 }
  | .error e =>
    complain ("error writing " ++ quotedAlways p.targetName ++ ": " ++ e.message)
    quit p start s

def writeBlocks (p : Plan) (start output : Nat) (s : Progress) (data : ByteArray) :
    Tool Progress := do
  let all := s.held ++ data
  let whole := all.size / p.outputSize
  let mut s := { s with held := all.extract (whole * p.outputSize) all.size }
  for n in List.range whole do
    s ← writeBlock p start output s
      (all.extract (n * p.outputSize) ((n + 1) * p.outputSize)) true
  return s

/-- Reads at most so many octets, in several turns where whole blocks are asked for. -/
def readBlock (input : Nat) (isWhole : Bool) (count : Nat) : Tool (Except Errno ByteArray) :=
  act (Act.repeatUntil (fun (got : ByteArray) => do
    match ← Act.ask (.read input (count - got.size)) with
    | .error e => return .inr (.error e)
    | .ok data =>
      let got := got ++ data
      return if data.isEmpty || !isWhole || got.size ≥ count then .inr (.ok got) else .inl got)
    (fun got => .ok got) Act.limit .empty)

/-- Goes over the first octets of the input; gives the number of those that were not there and the
size of the last block that was read. -/
def skip (p : Plan) (start input size : Nat) : Tool (Nat × Nat) := do
  match ← sys (.seek input size .current) with
  | .ok place =>
    match (← look).descriptors.lookup input with
    | some (.file inode) => return (place - ((← look).files.inode inode).content.size, 0)
    | _ => return (0, 0)
  | .error _ =>
    let isWhole := p.inputFlags.contains "fullblock"
    let blocks := (size + p.inputSize - 1) / p.inputSize
    let result ← (List.range blocks).foldlM (fun (got, last) n => do
      match ← readBlock input isWhole (min p.inputSize (size - n * p.inputSize)) with
      | .ok data => return (got + data.size, if data.isEmpty then last else data.size)
      | .error e =>
        complain ("error reading " ++ quotedAlways p.sourceName ++ ": " ++ e.message)
        quit p start {}) (0, 0)
    return (size - result.1, result.2)

def copyFrom (p : Plan) (start input output : Nat) : Nat → Progress → Tool Progress
  | 0, s => return s
  | n + 1, s => do
    let blocks := s.wholeIn + s.partIn
    let wanted := match p.count with
      | none => p.inputSize
      | some a =>
        let all := a.octets p.inputSize
        let whole := all / p.inputSize
        if blocks < whole then p.inputSize
        else if blocks = whole then all % p.inputSize else 0
    if wanted = 0 then return s
    else
      let isWhole := p.inputFlags.contains "fullblock"
      match ← readBlock input isWhole wanted with
      | .error e =>
        if !p.converts "noerror" || p.telling != .nothing then
          complain ("error reading " ++ quotedAlways p.sourceName ++ ": " ++ e.message)
        note 1
        return s
      | .ok data =>
        if data.isEmpty then return s
        else
          let s ← match s.lastRead with
            | some last =>
              if 0 < last && last < p.inputSize then do
                if p.telling != .nothing then
                  complain ("warning: partial read (" ++ toString last ++
                    (if last = 1 then " byte" else " bytes") ++ "); suggest iflag=fullblock")
                pure { s with lastRead := none }
              else pure { s with lastRead := some data.size }
            | none => pure s
          let isFull := data.size ≥ p.inputSize
          let s := if isFull then { s with wholeIn := s.wholeIn + 1 }
            else { s with partIn := s.partIn + 1 }
          let data := if isFull || !p.converts "sync" then data
            else
              let filler : UInt8 :=
                if p.converts "block" || p.converts "unblock" then 32 else 0
              (List.range (p.inputSize - data.size)).foldl (fun data _ => data.push filler) data
          if p.isDirect then
            let s ← writeBlock p start output s data (data.size ≥ p.inputSize)
            copyFrom p start input output n s
          else
            let changes := ["block", "unblock", "lcase", "ucase", "swab"].any p.converts
            let (conversion, data) :=
              if changes then
                let (c, out) := convert p s.conversion data.toList
                (c, ByteArray.mk out.toArray)
              else (s.conversion, data)
            let s ← writeBlocks p start output { s with conversion } data
            copyFrom p start input output n s

def openOutput (p : Plan) : Tool Nat := do
  let size := p.sought.octets p.outputSize
  let hasBlocks := size / p.outputSize > 0
  match p.target with
  | none => return 1
  | some path =>
    let opening : Opening := {
      writes := true
      create := !p.converts "nocreat"
      exclusive := p.converts "excl"
      truncate := !hasBlocks && !p.converts "notrunc"
      append := p.outputFlags.contains "append" }
    match ← sys (.open path opening) with
    | .error e => fail 1 ("failed to open " ++ quotedAlways path ++ ": " ++ e.message)
    | .ok output =>
      if hasBlocks && !p.converts "notrunc" then
        let _ ← change (.resize path size)
      return output

/-- Goes to where the output begins; where it cannot move, blocks of zeros are written. -/
def seekOutput (p : Plan) (start output : Nat) : Tool Unit := do
  let size := p.sought.octets p.outputSize
  if size > 0 then
    match ← sys (.seek output size .current) with
    | .ok _ => pure ()
    | .error e =>
      complain (quoted p.targetName ++ ": cannot seek: " ++ e.message)
      quit p start {}

def copy (words : List String) : Tool Unit := do
  let g ← given [] words
  let p ← withoutContradictions (← g.operands.foldlM withOperand {})
  let start := (← look).clock
  let input ← match p.source with
    | none => pure 0
    | some path =>
      match ← sys (.open path .input) with
      | .ok fd => pure fd
      | .error e => fail 1 ("failed to open " ++ quotedAlways path ++ ": " ++ e.message)
  let output ← openOutput p
  let size := p.skipped.octets p.inputSize
  let (missing, last) ← if size > 0 then skip p start input size else pure (0, 0)
  if missing > 0 && p.telling != .nothing then
    complain (quoted p.sourceName ++ ": cannot skip to specified offset")
  seekOutput p start output
  let warns := p.isDirect && !p.inputFlags.contains "fullblock" &&
    (p.skipped.octets p.inputSize ≥ p.inputSize || p.count.any fun a =>
      a.octets p.inputSize ≥ p.inputSize)
  let s ← copyFrom p start input output Act.limit { lastRead := if warns then some last else none }
  let (conversion, rest) := convertEnd p s.conversion
  let s ← writeBlocks p start output { s with conversion } (ByteArray.mk rest.toArray)
  let s ← if s.held.isEmpty then pure s
    else writeBlock p start output { s with held := .empty } s.held false
  tell p start s

def catalogue : List (String × (List String → Tool Unit)) := [("dd", copy)]

end Remedy.Tool.Blocks
