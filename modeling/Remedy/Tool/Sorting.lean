import Remedy.Text.Version
import Remedy.Decimal.Quantity
import Remedy.Calendar.Basic
import Remedy.Tool.Input

namespace Remedy.Tool.Sorting

def isBlank (c : Char) : Bool := c == ' ' || c == '\t' || c == '\n'

inductive Kind where
  | text
  | numeric
  | general
  | human
  | month
  | version
  | random
deriving DecidableEq, Repr

structure Manner where
  kind : Kind := .text
  letters : List Char := []
  isReversed : Bool := false
  foldsCase : Bool := false
  onlyDictionary : Bool := false
  onlyPrintable : Bool := false
  skipsStart : Bool := false
  skipsEnd : Bool := false

/-- A part of a line: fields and characters are counted from zero. -/
structure Key where
  startField : Nat
  startChar : Nat
  endField : Option Nat := none
  /-- How many characters of the last field belong to the key; zero stands for all. -/
  endChar : Nat := 0
  manner : Manner := {}
  isOwn : Bool := false

def Manner.letter? (m : Manner) (c : Char) (atStart atEnd : Bool) : Option Manner :=
  let m := { m with letters := c :: m.letters }
  match c with
  | 'b' => some { m with skipsStart := m.skipsStart || atStart, skipsEnd := m.skipsEnd || atEnd }
  | 'd' => some { m with onlyDictionary := true, onlyPrintable := false }
  | 'f' => some { m with foldsCase := true }
  | 'g' => some { m with kind := .general }
  | 'h' => some { m with kind := .human }
  | 'i' => some (if m.onlyDictionary then m else { m with onlyPrintable := true })
  | 'M' => some { m with kind := .month }
  | 'n' => some { m with kind := .numeric }
  | 'R' => some { m with kind := .random }
  | 'r' => some { m with isReversed := true }
  | 'V' => some (if m.kind = .random then m else { m with kind := .version })
  | _ => none

def Manner.conflict? (m : Manner) : Option String :=
  let has (c : Char) : Bool := m.letters.contains c
  let kinds := ['g', 'h', 'M', 'n'].filter has
  let others := if has 'R' || has 'V' || has 'd' || has 'i' then 1 else 0
  if kinds.length + others > 1 then
    some (String.ofList ("dfghiMnRV".toList.filter fun c => has c && !(c == 'i' && has 'd')))
  else none

def Key.read (text : String) : Except String Key := do
  let number (cs : List Char) (what : String) : Except String (Nat × List Char) :=
    let digits := cs.takeWhile Char.isDigit
    if digits.isEmpty then
      .error ("invalid number " ++ what ++ ": invalid count at start of " ++
        marked (String.ofList cs))
    else .ok ((natural? (String.ofList digits)).getD 0, cs.drop digits.length)
  let spec {β : Type} (message : String) : Except String β :=
    .error (message ++ ": invalid field specification " ++ marked text)
  let (field, cs) ← number text.toList "at field start"
  if field = 0 then spec "field number is zero"
  else
    let (char, cs) ← match cs with
      | '.' :: rest => do
        let (n, rest) ← number rest "after '.'"
        if n = 0 then spec "character offset is zero" else pure (n, rest)
      | cs => pure (1, cs)
    let letters := cs.takeWhile fun c => (({} : Manner).letter? c true false).isSome
    let manner := letters.foldl (fun m c => (m.letter? c true false).getD m) ({} : Manner)
    let k : Key := { startField := field - 1, startChar := char - 1, manner,
                     isOwn := !letters.isEmpty }
    match cs.drop letters.length with
    | [] => .ok k
    | ',' :: rest =>
      let (field, cs) ← number rest "after ','"
      if field = 0 then spec "field number is zero"
      else
        let (char, cs) ← match cs with
          | '.' :: rest => number rest "after '.'"
          | cs => pure (0, cs)
        let letters := cs.takeWhile fun c => (({} : Manner).letter? c false true).isSome
        let manner := letters.foldl (fun m c => (m.letter? c false true).getD m) k.manner
        if cs.length > letters.length then spec "stray character in field spec"
        else .ok { k with endField := some (field - 1), endChar := char, manner,
                          isOwn := k.isOwn || !letters.isEmpty }
    | _ => spec "stray character in field spec"

def afterFields (separator : Option Char) : Nat → List Char → List Char
  | 0, cs => cs
  | n + 1, cs =>
    match separator with
    | some c => afterFields separator n ((cs.dropWhile (· ≠ c)).drop 1)
    | none => afterFields separator n ((cs.dropWhile isBlank).dropWhile (!isBlank ·))

def atEnd (separator : Option Char) (k : Key) (field : Nat) (cs : List Char) : List Char :=
  if k.endChar = 0 then
    match separator with
    | some c => (afterFields separator field cs).dropWhile (· ≠ c)
    | none => afterFields none (field + 1) cs
  else
    let rest := afterFields separator field cs
    let rest := if k.manner.skipsEnd then rest.dropWhile isBlank else rest
    rest.drop k.endChar

def Key.part (k : Key) (separator : Option Char) (line : List Char) : List Char :=
  let start := afterFields separator k.startField line
  let start := if k.manner.skipsStart then start.dropWhile isBlank else start
  let start := start.drop k.startChar
  match k.endField with
  | none => start
  | some field => start.take (start.length - (atEnd separator k field line).length)

inductive Value where
  | text (s : String)
  | decimal (n : Int) (digits : Nat)
  | scaled (order : Int) (n : Int) (digits : Nat)
  | quantity (isNumber : Bool) (q : Decimal.Quantity)
  | version (s : String)

/-- The number in front of a text, with the digits behind its point counted. -/
def decimal (cs : List Char) : Int × Nat × List Char :=
  let cs := cs.dropWhile isBlank
  let (negative, cs) := match cs with
    | '-' :: rest => (true, rest)
    | cs => (false, cs)
  let whole := cs.takeWhile Char.isDigit
  let rest := cs.drop whole.length
  let (fraction, rest) := match rest with
    | '.' :: rest =>
      let f := rest.takeWhile Char.isDigit
      (f, rest.drop f.length)
    | rest => ([], rest)
  let n : Nat := (whole ++ fraction).foldl (fun n c => 10 * n + (c.toNat - 48)) 0
  (if negative then -(n : Int) else n, fraction.length, rest)

def Manner.value (m : Manner) (cs : List Char) : Value :=
  let cs := if m.onlyDictionary then cs.filter fun c => isBlank c || c.isAlphanum else cs
  let cs := if m.onlyPrintable then cs.filter fun c => ' ' ≤ c && c < '\x7f' else cs
  let cs := if m.foldsCase then cs.map Char.toUpper else cs
  match m.kind with
  | .numeric =>
    let (n, digits, _) := decimal cs
    .decimal n digits
  | .human =>
    let (n, digits, rest) := decimal cs
    let order : Int := match rest.head? with
      | some c => ("KMGTPEZYRQ".toList.findIdx? (· == (if c == 'k' then 'K' else c))).elim 0 (· + 1)
      | none => 0
    let sign : Int := if n < 0 then -1 else 1
    .scaled (if n = 0 then 0 else sign * order) n digits
  | .general =>
    match Decimal.Quantity.read? cs with
    | some (q, _) => .quantity true q
    | none => .quantity false .zero
  | .month =>
    let name := String.ofList (((cs.dropWhile isBlank).take 3).map Char.toLower)
    let found := Calendar.months.findIdx? fun n => (Calendar.short n).toLower == name
    .decimal (found.elim 0 fun i => (i : Int) + 1) 0
  | .version => .version (String.ofList cs)
  | .text | .random => .text (String.ofList cs)

def Value.compare : Value → Value → Ordering
  | .text a, .text b => compareOfLessAndEq a b
  | .decimal m i, .decimal n j => Ord.compare (m * (10 : Int).pow j) (n * (10 : Int).pow i)
  | .scaled a m i, .scaled b n j =>
    (Ord.compare a b).then (Ord.compare (m * (10 : Int).pow j) (n * (10 : Int).pow i))
  | .quantity x a, .quantity y b =>
    if x != y then (if x then .gt else .lt)
    else if a.lt b then .lt else if b.lt a then .gt else .eq
  | .version a, .version b => Text.Version.compareNames a b
  | _, _ => .eq

/-- A line with what it is compared by, each value with whether it counts the other way round. -/
structure Line where
  text : String
  values : List (Value × Bool)

def compareValues : List (Value × Bool) → List (Value × Bool) → Ordering
  | (a, isReversed) :: as, (b, _) :: bs =>
    match a.compare b with
    | .eq => compareValues as bs
    | o => if isReversed then o.swap else o
  | _, _ => .eq

structure Plan where
  separator : Option Char := none
  keys : List Key := []
  manner : Manner := {}
  isStable : Bool := false
  isUnique : Bool := false

def Plan.line (p : Plan) (text : String) : Line :=
  let cs := text.toList
  if p.keys.isEmpty then
    let m := p.manner
    let isPlain := m.kind == .text && !m.foldsCase && !m.onlyDictionary && !m.onlyPrintable &&
      !m.skipsStart
    if isPlain then { text, values := [(.text text, m.isReversed)] }
    else
      let cs := if m.skipsStart then cs.dropWhile isBlank else cs
      { text, values := [(m.value cs, m.isReversed)] }
  else
    { text, values := p.keys.map fun k =>
        (k.manner.value (k.part p.separator cs), k.manner.isReversed) }

def Plan.compare (p : Plan) (a b : Line) : Ordering :=
  match compareValues a.values b.values with
  | .eq =>
    if p.isStable || p.isUnique then .eq
    else
      let o := compareOfLessAndEq a.text b.text
      if p.manner.isReversed then o.swap else o
  | o => o

/-- Drops lines whose keys are equal to the ones before them. -/
def distinct : List Line → List Line
  | a :: b :: rest =>
    if compareValues a.values b.values == .eq then distinct (a :: rest)
    else a :: distinct (b :: rest)
  | lines => lines
termination_by lines => lines.length

/-- Lines of several files put together: at each step the least of the first lines comes next. -/
def merged (p : Plan) : Nat → List (List Line) → List Line
  | 0, _ => []
  | n + 1, files =>
    let heads := files.zipIdx.filterMap fun (lines, i) => lines.head?.map fun l => (l, i)
    match heads with
    | [] => []
    | first :: others =>
      let (line, i) := others.foldl (fun least head =>
        if p.compare head.1 least.1 == .lt then head else least) first
      line :: merged p n (files.modify i fun lines => lines.drop 1)

inductive Check where
  | telling
  | quiet

def mannerOf (g : Given) : Tool Manner := do
  let mut m : Manner := {}
  for (key, text) in g.options do
    if key == "sort" then
      let name ← choose "--sort" [["general-numeric"], ["human-numeric"], ["month"], ["numeric"],
        ["random"], ["version"]] text
      let c := match name with
        | "general-numeric" => 'g'
        | "human-numeric" => 'h'
        | "month" => 'M'
        | "numeric" => 'n'
        | "random" => 'R'
        | _ => 'V'
      m := (m.letter? c true true).getD m
    else
      match key.toList with
      | [c] => if "bdfghiMnRrV".toList.contains c then m := (m.letter? c true true).getD m
      | _ => pure ()
  return m

def separatorOf (g : Given) : Tool (Option Char) := do
  let mut found : Option Char := none
  for text in g.argumentsOf "t" do
    let c ← match text.toList with
      | [] => fail 2 "empty tab"
      | [c] => pure c
      | ['\\', '0'] => pure '\x00'
      | _ => fail 2 ("multi-character tab " ++ marked text)
    if found.any (· != c) then fail 2 "incompatible tabs"
    found := some c
  return found

def checkOf (g : Given) : Tool (Option Check) := do
  let mut found : List Char := []
  for (key, text) in g.options do
    match key with
    | "c" => found := 'c' :: found
    | "C" => found := 'C' :: found
    | "check" =>
      if text == "" then found := 'c' :: found
      else
        let word ← choose "--check" [["quiet", "silent"], ["diagnose-first"]] text
        found := (if word == "diagnose-first" then 'c' else 'C') :: found
    | _ => pure ()
  match found with
  | [] => return none
  | c :: rest =>
    if rest.any (· != c) then fail 2 "options '-cC' are incompatible"
    return some (if c == 'c' then .telling else .quiet)

/-- Refuses numbers that say how the work is to be done and cannot be met. -/
def checkLimits (g : Given) (words : List String) : Tool Unit := do
  let size (key option letters : String) (least : Nat) (otherwise : Tool Unit) : Tool Unit := do
    match g.argument? key with
    | none => pure ()
    | some text =>
      let cs := text.toList
      -- a part of the memory may be meant
      let isPart := key == "S" && cs.getLast? == some '%' && cs.head?.any Char.isDigit
      match sized letters (if isPart then String.ofList cs.dropLast else text) with
      | .ok n => if n < least then otherwise
      | .error m => refuseSize option text m 2
  size "batch-size" "--batch-size" "" 2 do
    complain ("invalid --batch-size argument " ++ marked ((g.argument? "batch-size").getD ""))
    fail 2 "minimum --batch-size argument is '2'"
  let isLong := words.any (·.startsWith "--bu")
  size "S" (if isLong then "--buffer-size" else "-S") "EgGkKmMPQRtTYZb" 0 (pure ())
  size "parallel" "--parallel" "" 1 (fail 2 "number in parallel must be nonzero")

/-- The files whose names stand in another one, each ended by a zero. -/
def listed (path : String) : Tool (List String) := do
  match ← readAll path with
  | .error e => fail 2 ("open failed: " ++ quoted path ++ ": " ++ e.message)
  | .ok text =>
    let names := (linesOf text '\x00').1
    if names.isEmpty then fail 2 ("no input from " ++ quotedAlways path)
    match names.findIdx? (· == "") with
    | some n => fail 2 (quoted path ++ ":" ++ toString (n + 1) ++ ": invalid zero-length file name")
    | none => return names

def checkOrder (p : Plan) (c : Check) (path : String) (lines : List Line) : Tool Unit := do
  let bad := (lines.zip (lines.drop 1)).zipIdx.find? fun ((a, b), _) =>
    match p.compare a b with
    | .gt => true
    | .eq => p.isUnique
    | .lt => false
  match bad, c with
  | none, _ => pure ()
  | some ((_, b), i), .telling =>
    complain (quoted path ++ ":" ++ toString (i + 2) ++ ": disorder: " ++ b.text)
    setStatus 1
  | some _, .quiet => setStatus 1

/-- A place in a line as it was written in old times: counted from zero, with letters behind. -/
def oldPlace? (cs : List Char) : Option (Nat × Nat × List Char) := do
  let field := cs.takeWhile Char.isDigit
  let n ← natural? (String.ofList field)
  let (m, rest) ← match cs.drop field.length with
    | '.' :: rest =>
      let char := rest.takeWhile Char.isDigit
      (natural? (String.ofList char)).map fun m => (m, rest.drop char.length)
    | rest => some (0, rest)
  guard (rest.all "bdfghiMnRrV".toList.contains)
  return (n, m, rest)

def newStyle : List String → List String
  | [] => []
  | "--" :: rest => "--" :: rest
  | w :: rest =>
    match w.toList with
    | '+' :: cs =>
      match oldPlace? cs with
      | none => w :: newStyle rest
      | some (n, m, letters) =>
        let start := toString (n + 1) ++ "." ++ toString (m + 1) ++ String.ofList letters
        match rest with
        | v :: others =>
          match v.toList with
          | '-' :: cs =>
            match oldPlace? cs with
            | some (n, m, letters) =>
              let stop := if m = 0 && n > 0 then toString n
                else toString (n + 1) ++ "." ++ toString m
              ("-k" ++ start ++ "," ++ stop ++ String.ofList letters) :: newStyle others
            | none => ("-k" ++ start) :: newStyle (v :: others)
          | _ => ("-k" ++ start) :: newStyle (v :: others)
        | [] => ["-k" ++ start]
    | _ => w :: newStyle rest

def sort (words : List String) : Tool Unit := do
  let g ← given (letters "bdfghiMnRrVcCmsuz" ++ [opt 'b' "ignore-leading-blanks",
    opt 'd' "dictionary-order", opt 'f' "ignore-case", opt 'g' "general-numeric-sort",
    opt 'h' "human-numeric-sort", opt 'i' "ignore-nonprinting", opt 'M' "month-sort",
    opt 'n' "numeric-sort", opt 'R' "random-sort", opt 'r' "reverse", opt 'V' "version-sort",
    opt 'm' "merge", opt 's' "stable", opt 'u' "unique", opt 'z' "zero-terminated",
    opt 'k' "key" .argument, opt 't' "field-separator" .argument, opt 'o' "output" .argument,
    opt 'S' "buffer-size" .argument, opt 'T' "temporary-directory" .argument,
    long "sort" .argument, long "check" .maybe, long "parallel" .argument,
    long "files0-from" .argument, long "debug", long "batch-size" .argument,
    long "compress-program" .argument, long "random-source" .argument]) (newStyle words) false 2
  let manner ← mannerOf g
  let check ← checkOf g
  let keys ← (g.argumentsOf "k").mapM fun text =>
    match Key.read text with
    | .ok k => pure (if k.isOwn then k else { k with manner })
    | .error message => fail 2 message
  let separator ← separatorOf g
  let outputs := g.argumentsOf "o"
  if outputs.any (· != outputs.headD "") then fail 2 "multiple output files specified"
  checkLimits g words
  let operands ← match g.argument? "files0-from" with
    | some path =>
      match g.operands with
      | w :: _ => refuseBesideList 2 w
      | [] => listed path
    | none => pure (if g.operands.isEmpty then ["-"] else g.operands)
  let manners := if keys.isEmpty then [manner] else keys.map (·.manner)
  match manners.filterMap Manner.conflict? with
  | letters :: _ => fail 2 ("options '-" ++ letters ++ "' are incompatible")
  | [] => pure ()
  let p : Plan := { separator, keys, manner, isStable := g.has "s", isUnique := g.has "u" }
  let ending := if g.has "z" then '\x00' else '\n'
  let read (failure path : String) : Tool (List Line) := do
    match ← readAll path with
    | .ok text => return (linesOf text ending).1.map p.line
    | .error e => fail 2 ((if e = .isDirectory then "read failed: " else failure) ++
        quoted path ++ ": " ++ e.message)
  match check with
  | some c =>
    let letter := match c with
      | .telling => "c"
      | .quiet => "C"
    if operands.length > 1 then
      fail 2 ("extra operand " ++ quotedAlways (operands.getD 1 "") ++ " not allowed with -" ++
        letter)
    if !outputs.isEmpty then fail 2 ("options '-" ++ letter ++ "o' are incompatible")
    let path := operands.headD "-"
    checkOrder p c path (← read "open failed: " path)
  | none =>
    -- what cannot be read or written is told before anything is done
    operands.forM fun path => do
      if path != "-" then
        match ← status path true with
        | .ok _ => pure ()
        | .error e => fail 2 ("cannot read: " ++ quoted path ++ ": " ++ e.message)
    match outputs.head? with
    | some path =>
      match ← sys (.open path { writes := true, create := true }) with
      | .ok fd =>
        let _ ← sys (.close fd)
      | .error e => fail 2 ("open failed: " ++ quoted path ++ ": " ++ e.message)
    | none => pure ()
    let files ← operands.mapM (read "cannot read: ")
    let sorted := if g.has "m" then merged p (files.flatten.length + 1) files
      else files.flatten.mergeSort fun a b => p.compare a b != .gt
    let sorted := if p.isUnique then distinct sorted else sorted
    let output := unlines (sorted.map (·.text)) true (String.singleton ending)
    match outputs.head? with
    | none => put output
    | some path =>
      match ← sys (.open path .output) with
      | .ok fd =>
        let _ ← act (Unix.Act.writeTo fd output)
        let _ ← sys (.close fd)
      | .error e => fail 2 ("open failed: " ++ quoted path ++ ": " ++ e.message)

def catalogue : List (String × (List String → Tool Unit)) := [("sort", sort)]

end Remedy.Tool.Sorting
