import Remedy.Shell.Builtin.Basic
import Remedy.Shell.Test
import Remedy.Text.Echo
import Remedy.Text.Printf

namespace Remedy.Shell.Builtin

open Text

def echoEscapes : Escape.Style := { longOctal := true, stops := true }

def echoEscapesWhenAsked : Escape.Style :=
  { longOctal := true, octalNeedsZero := true, hexadecimal := true, stops := true }

def echo (_ : Interpreter) (words : List String) : ShellM Nat := do
  if ← ShellM.isExtended then print (Echo.ofWords echoEscapesWhenAsked words)
  else
    match words with
    | "-n" :: words => print (Echo.text (some echoEscapes) false words)
    | words => print (Echo.text (some echoEscapes) true words)

def plainPrintf : Printf.Style where
  noNumber s := s ++ ": expected numeric value"
  notWhole s := s ++ ": not completely converted"
  outOfRange s := s ++ ": Numerical result out of range"
  invalid d := d ++ ": invalid directive"
  invalidStatus := 2
  unfinished _ := "missing format character"
  formatEscapes := {}
  operandEscapes := echoEscapes

/-- A text with backslashes, so that the extended shell reads it back. -/
def backslashed (s : String) : String :=
  if s == "" then "''"
  else if s.toList.any fun c => c < ' ' || c == '\x7f' then
    "$'" ++ String.join (s.toList.map fun c =>
      match c with
      | '\n' => "\\n"
      | '\t' => "\\t"
      | '\r' => "\\r"
      | '\x1b' => "\\E"
      | '\'' => "\\'"
      | '\\' => "\\\\"
      | c =>
        if c < ' ' || c == '\x7f' then
          let digits := String.ofList (Nat.toDigits 8 c.toNat)
          "\\" ++ "".pushn '0' (3 - digits.length) ++ digits
        else String.singleton c) ++ "'"
  else
    String.join (s.toList.zipIdx.map fun (c, i) =>
      let special := " \"'\\`$&|;()<>*?[]\x7b\x7d!^,".toList.contains c ||
        ((c == '~' || c == '#') && i = 0)
      if special then "\\" ++ String.singleton c else String.singleton c)

def extendedPrintf : Printf.Style where
  noNumber s := s ++ ": invalid number"
  notWhole s := s ++ ": invalid number"
  outOfRange s := "warning: " ++ s ++ ": Numerical result out of range"
  invalid d := "`" ++ String.singleton (d.toList.getLastD '%') ++ "': invalid format character"
  invalidStatus := 1
  unfinished d := "`" ++ d ++ "': missing format character"
  formatEscapes := { hexadecimal := true, quotes := true }
  operandEscapes := { longOctal := true, hexadecimal := true, stops := true, quotes := true }
  quoted := some backslashed
  skipsSizes := true
  isRounded := false

def printf (_ : Interpreter) (words : List String) : ShellM Nat := do
  let extended ← ShellM.isExtended
  let g ← given "" (if extended then "v" else "") words
  match g.operands with
  | [] =>
    if extended then
      let _ ← ShellM.writeTo 2 "printf: usage: printf [-v var] format [arguments]\n"
      return 2
    else ShellM.fail "usage: printf format [arg ...]"
  | format :: operands =>
    let p := Printf.run (if extended then extendedPrintf else plainPrintf) format operands
    p.complaints.forM ShellM.warn
    match g.argument? 'v' with
    | some name =>
      ShellM.assign name p.text
      return p.status
    | none =>
      let written ← print p.text
      return if p.status ≠ 0 then p.status else written

def testComplaint (extended : Bool) (message : String) : String :=
  if extended && message.startsWith "Illegal number: " then
    String.ofList (message.toList.drop 16) ++ ": integer expression expected"
  else if extended && message.endsWith "unexpected operator" then "too many arguments"
  else message

def testWords (words : List String) : ShellM Nat := do
  match Test.evaluate (← ShellM.look) words with
  | .ok holds => return if holds then 0 else 1
  | .error message =>
    ShellM.warn (testComplaint (← ShellM.isExtended) message)
    return 2

def test (_ : Interpreter) (words : List String) : ShellM Nat := testWords words

def bracket (_ : Interpreter) (words : List String) : ShellM Nat := do
  if words.getLast? = some "]" then testWords words.dropLast
  else
    ShellM.warn (if ← ShellM.isExtended then "missing `]'" else "missing ]")
    return 2

def printing : List (String × Builtin) := [
  ("echo", { run := echo }),
  ("printf", { run := printf }),
  ("test", { run := test }),
  ("[", { run := bracket }),
  (":", { isSpecial := true, run := fun _ _ => return 0 }),
  ("true", { run := fun _ _ => return 0 }),
  ("false", { run := fun _ _ => return 1 })]

end Remedy.Shell.Builtin
