import Remedy.Shell.Builtin.Basic

namespace Remedy.Shell.Builtin

open Unix Files

/-- An absolute path with its `.` and `..` taken out, whatever links there are. -/
def logicalPath (directory path : String) : String :=
  let start := if path.startsWith "/" then path else directory ++ "/" ++ path
  let steps := Text.segments '/' start.toList
  let names := steps.foldl (fun names step =>
    match step with
    | [] | ['.'] => names
    | ['.', '.'] => names.tail
    | step => step :: names) ([] : List (List Char))
  -- two slashes in front stay two
  let head := match start.toList with
    | '/' :: '/' :: c :: _ => if c == '/' then "/" else "//"
    | ['/', '/'] => "//"
    | _ => "/"
  head ++ "/".intercalate (names.reverse.map String.ofList)

def arrive (directory : String) : ShellM Unit := do
  let s ← get
  let old := s.directory
  modify ({ · with directory })
  ShellM.assign "OLDPWD" old
  Scope.mark "OLDPWD" ({ · with isExported := true })
  ShellM.assign "PWD" directory
  Scope.mark "PWD" ({ · with isExported := true })

def goTo (isPhysical : Bool) (path : String) : ShellM (Option Errno) := do
  let s ← get
  let target := if isPhysical then path else logicalPath s.directory path
  match ← ShellM.sys (.goTo target) with
  | .error e => return some e
  | .ok _ =>
    let view ← ShellM.look
    arrive (if isPhysical then view.directory else target)
    return none

def isDirect (path : String) : Bool :=
  match path.toList with
  | '/' :: _ => true
  | '.' :: '.' :: '/' :: _ | ['.', '.'] => true
  | '.' :: '/' :: _ | ['.'] => true
  | _ => false

def changeDirectory (_ : Interpreter) (words : List String) : ShellM Nat := do
  let g ← given "LPe" "" words
  let s ← get
  let extended := s.dialect == .extended
  let isPhysical := (g.options.getLast?.any (·.1 == 'P'))
  let operand := g.operands.head?
  if extended && g.operands.length > 1 then
    ShellM.warn "too many arguments"
    return 1
  else if extended && operand.isNone && (s.value? "HOME").isNone then
    ShellM.warn "HOME not set"
    return 1
  else if extended && operand == some "-" && (s.value? "OLDPWD").isNone then
    ShellM.warn "OLDPWD not set"
    return 1
  else
    let path := match operand with
      | none => s.value "HOME"
      | some "-" => s.value "OLDPWD"
      | some p => p
    let view ← ShellM.look
    let isDirectory (p : String) := view.isDirectory p
    let wanted := if path == "" then "." else path
    let found : Option (String × Bool) :=
      if isDirect path then some (path, false)
      else
        let directories := (Text.segments ':' (s.value "CDPATH").toList).map String.ofList
        directories.findSome? fun d =>
          let candidate := if d == "" then wanted else d ++ "/" ++ wanted
          if isDirectory candidate then some (candidate, d != "") else none
    let (target, shows) := found.getD (wanted, false)
    match ← goTo isPhysical (if path == "" && found.isNone then path else target) with
    | none =>
      if shows || operand == some "-" then
        let s ← get
        print (s.directory ++ "\n")
      else return 0
    | some e =>
      if extended then
        ShellM.warn (path ++ ": " ++ e.message)
        return 1
      else ShellM.fail ("can't cd to " ++ path)

def showDirectory (_ : Interpreter) (words : List String) : ShellM Nat := do
  let g ← given "LP" "" words
  if g.options.getLast?.any (·.1 == 'P') then print ((← ShellM.look).directory ++ "\n")
  else print ((← get).directory ++ "\n")

def octal (n : Nat) : String :=
  let digits := String.ofList (Nat.toDigits 8 n)
  "".pushn '0' (4 - digits.length) ++ digits

def symbolicMask (mask : Nat) : String :=
  let allowed := 511 - mask
  let triple (bits : Nat) : String :=
    (if bits &&& 4 ≠ 0 then "r" else "") ++ (if bits &&& 2 ≠ 0 then "w" else "") ++
      (if bits &&& 1 ≠ 0 then "x" else "")
  "u=" ++ triple (allowed / 64) ++ ",g=" ++ triple (allowed / 8 % 8) ++ ",o=" ++
    triple (allowed % 8)

def permissionSteps (classes : Nat) : Nat → List Char → Nat → Option (Nat × List Char)
  | 0, _, _ => none
  | n + 1, cs, allowed =>
    match cs with
    | op :: rest =>
      if op == '+' || op == '-' || op == '=' then
        let letters := rest.takeWhile "rwxugoXs".toList.contains
        let bits := letters.foldl (fun bits c => bits ||| match c with
          | 'r' => 4
          | 'w' => 2
          | 'x' => 1
          | 'u' => allowed / 64
          | 'g' => allowed / 8 % 8
          | 'o' => allowed % 8
          | 'X' => if allowed &&& 73 ≠ 0 then 1 else 0
          | _ => 0) 0
        let bits := bits * classes
        let all := 7 * classes
        let after := match op with
          | '+' => allowed ||| bits
          | '-' => allowed - (allowed &&& bits)
          | _ => (allowed - (allowed &&& all)) ||| bits
        permissionSteps classes n (rest.drop letters.length) after
      else some (allowed, cs)
    | [] => some (allowed, [])

def symbolicPermissions : Nat → List Char → Nat → Option Nat
  | 0, _, _ => none
  | n + 1, cs, allowed => do
    let who := cs.takeWhile "augo".toList.contains
    let classes := who.foldl (fun m c => m ||| match c with
      | 'u' => 64
      | 'g' => 8
      | 'o' => 1
      | _ => 73) 0
    let (allowed, rest) ← permissionSteps (if classes = 0 then 73 else classes) (cs.length + 1)
      (cs.drop who.length) allowed
    match rest with
    | [] => some allowed
    | ',' :: rest => symbolicPermissions n rest allowed
    | _ => none

def umask (_ : Interpreter) (words : List String) : ShellM Nat := do
  let extended ← ShellM.isExtended
  let g ← given (if extended then "Sp" else "S") "" words
  let mask := (← ShellM.look).umask
  match g.operands with
  | [] =>
    print ((if extended && g.has 'p' then "umask " ++ (if g.has 'S' then "-S " else "") else "") ++
      (if g.has 'S' then symbolicMask mask else octal mask) ++ "\n")
  | w :: _ =>
    match w.toList with
    | c :: cs =>
      if c.isDigit then
        if (c :: cs).all fun c => '0' ≤ c && c ≤ '7' then
          let _ ← ShellM.sys (.setUmask (Arithmetic.valueIn 8 (c :: cs) % 512))
          return 0
        else if extended then
          ShellM.warn (w ++ ": octal number out of range")
          return 1
        else ShellM.fail ("Illegal number: " ++ w)
      else
        match symbolicPermissions (w.length + 1) (c :: cs) (511 - mask) with
        | some allowed =>
          let _ ← ShellM.sys (.setUmask (511 - allowed))
          return 0
        | none =>
          if extended then
            ShellM.warn ("`" ++ String.singleton (cs.getLastD c) ++
              "': invalid symbolic mode character")
            return 1
          else ShellM.fail ("Illegal mode: " ++ w)
    | [] => return 0

/-- The bounds for processes: a letter, a name with its unit, and what holds at the beginning. -/
def bounds : List (Char × String × String) :=
  [('t', "time(seconds)", "unlimited"), ('f', "file(blocks)", "unlimited"),
    ('d', "data(kbytes)", "unlimited"), ('s', "stack(kbytes)", "8192"),
    ('c', "coredump(blocks)", "0"), ('m', "memory(kbytes)", "unlimited"),
    ('l', "locked memory(kbytes)", "8192"), ('p', "process", "127940"),
    ('n', "nofiles", "1048576"), ('v', "vmemory(kbytes)", "unlimited"), ('w', "locks", "unlimited"),
    ('r', "rtprio", "0")]

def boundOf (s : State) (letter : Char) : String :=
  (s.limits.lookup letter).getD (((bounds.lookup letter).map (·.2)).getD "unlimited")

def ulimit (_ : Interpreter) (words : List String) : ShellM Nat := do
  let g ← given "HSatfdscmlpnvwr" "" words
  let s ← get
  let letter := ((g.options.map (·.1)).filter fun c => c != 'H' && c != 'S').getLastD 'f'
  match g.operands with
  | [] =>
    if g.has 'a' then
      print (String.join (bounds.map fun (c, name, _) =>
        name ++ "".pushn ' ' (20 - name.length) ++ " " ++ boundOf s c ++ "\n"))
    else print (boundOf s letter ++ "\n")
  | [w] =>
    if g.has 'a' then ShellM.fail "too many arguments"
    else if w == "unlimited" then
      modify fun s => { s with limits := (letter, w) :: s.limits }
      return 0
    else if !w.isEmpty && w.toList.all Char.isDigit then
      modify fun s => { s with limits := (letter, w) :: s.limits }
      return 0
    else ShellM.fail "bad number"
  | _ => ShellM.fail "too many arguments"

def place : List (String × Builtin) := [
  ("cd", { run := changeDirectory }),
  ("chdir", { run := changeDirectory }),
  ("pwd", { run := showDirectory }),
  ("umask", { run := umask }),
  ("ulimit", { run := ulimit })]

end Remedy.Shell.Builtin
