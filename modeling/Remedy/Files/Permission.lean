namespace Remedy.Files.Permission

/-- A step of a clause: an operation and the letters behind it. -/
structure Step where
  operation : Char
  letters : List Char

/-- Steps for some classes; where none is named the steps are for all of them, as far as the mask
lets them. -/
structure Clause where
  classes : Nat
  isNamed : Bool
  steps : List Step

inductive Mode where
  | absolute (bits : Nat) (keepsSpecial : Bool)
  | symbolic (clauses : List Clause)

def steps : Nat → List Char → List Step × List Char
  | 0, cs => ([], cs)
  | n + 1, cs =>
    match cs with
    | op :: rest =>
      if op == '+' || op == '-' || op == '=' then
        let copies := rest.takeWhile "ugo".toList.contains
        let letters := if copies.isEmpty then rest.takeWhile "rwxXst".toList.contains
          else copies.take 1
        let (more, rest) := steps n (rest.drop letters.length)
        ({ operation := op, letters } :: more, rest)
      else ([], cs)
    | [] => ([], [])

def clauses : Nat → List Char → Option (List Clause)
  | 0, _ => none
  | n + 1, cs => do
    let who := cs.takeWhile "augo".toList.contains
    let classes := who.foldl (fun m c => m ||| match c with
      | 'u' => 64
      | 'g' => 8
      | 'o' => 1
      | _ => 73) 0
    let (steps, rest) := steps (cs.length + 1) (cs.drop who.length)
    guard (!steps.isEmpty)
    let clause : Clause := { classes := if who.isEmpty then 73 else classes,
                             isNamed := !who.isEmpty, steps }
    match rest with
    | [] => some [clause]
    | ',' :: rest => return clause :: (← clauses n rest)
    | _ => none

def read? (text : String) : Option Mode :=
  let cs := text.toList
  if !cs.isEmpty && cs.all (fun c => '0' ≤ c && c ≤ '7') then
    let bits := cs.foldl (fun n c => 8 * n + (c.toNat - 48)) 0
    if bits < 4096 then some (.absolute bits (cs.length < 5)) else none
  else (clauses (cs.length + 1) cs).map .symbolic

def Step.apply (s : Step) (c : Clause) (isDirectory : Bool) (umask bits : Nat) : Nat :=
  let triple := s.letters.foldl (fun t c => t ||| match c with
    | 'r' => 4
    | 'w' => 2
    | 'x' => 1
    | 'X' => if isDirectory || bits &&& 73 ≠ 0 then 1 else 0
    | 'u' => bits / 64 % 8
    | 'g' => bits / 8 % 8
    | 'o' => bits % 8
    | _ => 0) 0
  let special :=
    (if s.letters.contains 's' then
      (if c.classes &&& 64 ≠ 0 then 2048 else 0) ||| (if c.classes &&& 8 ≠ 0 then 1024 else 0)
    else 0) |||
    (if s.letters.contains 't' && (!c.isNamed || c.classes = 73) then 512 else 0)
  let masked := (triple * c.classes) &&& (if c.isNamed then 511 else 511 - (umask &&& 511))
  let change := masked ||| special
  let all := (7 * c.classes) ||| (if c.classes &&& 64 ≠ 0 then 2048 else 0) |||
    (if c.classes &&& 8 ≠ 0 then 1024 else 0) ||| (if !c.isNamed then 512 else 0)
  -- the marks of a directory stay unless they are named
  let all := if isDirectory then all &&& 511 else all
  match s.operation with
  | '+' => bits ||| change
  | '-' => bits - (bits &&& change)
  | _ => (bits - (bits &&& all)) ||| change

def Mode.apply (m : Mode) (isDirectory : Bool) (umask bits : Nat) : Nat :=
  match m with
  | .absolute new keepsSpecial =>
    if isDirectory && keepsSpecial then new ||| (bits &&& 3072) else new
  | .symbolic clauses =>
    clauses.foldl (fun bits c =>
      c.steps.foldl (fun bits s => s.apply c isDirectory umask bits) bits) bits

def octal (bits width : Nat) : String :=
  let digits := String.ofList (Nat.toDigits 8 bits)
  "".pushn '0' (width - digits.length) ++ digits

end Remedy.Files.Permission
