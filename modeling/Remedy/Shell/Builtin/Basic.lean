import Remedy.Shell.Interpreter

namespace Remedy.Shell

structure Builtin where
  /-- A special builtin ends the shell with its errors and keeps the variables that it is given. -/
  isSpecial : Bool := false
  declares : Bool := false
  run : Interpreter → List String → ShellM Nat

namespace Builtin

def print (text : String) : ShellM Nat := do
  match ← ShellM.act (Unix.Act.writeTo 1 text) with
  | .ok _ => return 0
  | .error e =>
    let s ← get
    ShellM.warn (if s.dialect == .plain then s.command.getD "" ++ ": I/O error"
      else "write error: " ++ e.message)
    return 1

/-- Options in front of operands: letters with their arguments, and what follows them. -/
structure Given where
  options : List (Char × String) := []
  operands : List String := []

namespace Given

def has (g : Given) (letter : Char) : Bool := g.options.any (·.1 == letter)

def argument? (g : Given) (letter : Char) : Option String := g.options.reverse.lookup letter

/-- The letters in one operand; one of `withArgument` takes the rest of it or the next operand. -/
def ofLetters (known withArgument : List Char) :
    List Char → List String → Except String (List (Char × String) × List String)
  | [], rest => .ok ([], rest)
  | c :: cs, rest =>
    if withArgument.contains c then
      match cs, rest with
      | [], [] => .error ("No arg for -" ++ String.singleton c ++ " option")
      | [], a :: rest => .ok ([(c, a)], rest)
      | cs, rest => .ok ([(c, String.ofList cs)], rest)
    else if known.contains c then do
      let (more, rest) ← ofLetters known withArgument cs rest
      .ok ((c, "") :: more, rest)
    else .error ("Illegal option -" ++ String.singleton c)

def read (known withArgument : List Char) : Nat → List String → Except String Given
  | 0, words => .ok { operands := words }
  | _, [] => .ok {}
  | n + 1, w :: rest =>
    match w.toList with
    | ['-', '-'] => .ok { operands := rest }
    | '-' :: c :: cs => do
      let (options, rest) ← ofLetters known withArgument (c :: cs) rest
      let more ← read known withArgument n rest
      .ok { more with options := options ++ more.options }
    | _ => .ok { operands := w :: rest }

end Given

def given (known withArgument : String) (words : List String) : ShellM Given := do
  match Given.read known.toList withArgument.toList (words.length + 1) words with
  | .ok g => return g
  | .error message =>
    if (← get).dialect == .plain then ShellM.fail message
    else
      let letter := message.toList.getLastD '?'
      ShellM.warn (if message.startsWith "No arg" then
          "-" ++ String.singleton ((message.toList.drop 12).headD '?') ++
            ": option requires an argument"
        else "-" ++ String.singleton letter ++ ": invalid option")
      ShellM.setStatus 2
      throw .failure

def number (s : String) : ShellM Nat := do
  let isPlain := (← get).dialect == .plain
  let cs := s.toList
  let read := if isPlain || (!cs.isEmpty && cs.all Char.isDigit) then Arithmetic.decimal? cs else none
  match read with
  | some n =>
    if 0 ≤ n && n < 2147483648 then return n.toNat
    else refuse isPlain
  | none => refuse isPlain
where
  refuse (isPlain : Bool) : ShellM Nat := do
    if isPlain then ShellM.fail ("Illegal number: " ++ s)
    else
      ShellM.warn (s ++ ": numeric argument required")
      ShellM.setStatus 2
      throw .failure

def quoted (s : String) : String :=
  let rec go : Nat → List Char → List Char
    | 0, _ => []
    | n + 1, cs =>
      let plain := cs.takeWhile (· != '\'')
      let rest := cs.drop plain.length
      let marks := rest.takeWhile (· == '\'')
      let rest := rest.drop marks.length
      ['\''] ++ plain ++ ['\''] ++ (if marks.isEmpty then [] else ['"'] ++ marks ++ ['"']) ++
        if rest.isEmpty then [] else go n rest
  String.ofList (go (s.length + 1) s.toList)

def byName (xs : List (String × α)) : List (String × α) :=
  xs.mergeSort fun a b => decide (a.1 ≤ b.1)

end Builtin

end Remedy.Shell
