import Remedy.Regex.Matching
import Remedy.Text.Escape
import Remedy.Tool.Records.Value

namespace Remedy.Tool.Records

/-- A variable of the whole script, or one of the function at hand. -/
inductive Name where
  | shared (n : Nat)
  | own (n : Nat)
deriving DecidableEq

inductive Operation where
  | add
  | subtract
  | multiply
  | divide
  | remainder
  | power

inductive Relation where
  | less
  | atMost
  | equal
  | unequal
  | atLeast
  | greater

inductive Builtin where
  | atan2
  | close
  | cos
  | exp
  | flush
  | global
  | index
  | int
  | length
  | log
  | lower
  | locate
  | makeTime
  | once
  | rand
  | seed
  | sin
  | split
  | format
  | root
  | formatTime
  | substring
  | system
  | time
  | upper
deriving DecidableEq

namespace Builtin

/-- The built-in functions by their names, with the least and the greatest number of arguments. -/
def table : List (String × Builtin × Nat × Nat) :=
  [("atan2", .atan2, 2, 2), ("close", .close, 1, 1), ("cos", .cos, 1, 1), ("exp", .exp, 1, 1),
    ("fflush", .flush, 0, 1), ("gsub", .global, 2, 3), ("index", .index, 2, 2), ("int", .int, 1, 1),
    ("length", .length, 0, 1), ("log", .log, 1, 1), ("match", .locate, 2, 2),
    ("mktime", .makeTime, 1, 2), ("rand", .rand, 0, 0), ("sin", .sin, 1, 1),
    ("split", .split, 2, 3), ("sprintf", .format, 1, 1000), ("sqrt", .root, 1, 1),
    ("srand", .seed, 0, 1), ("strftime", .formatTime, 0, 3), ("sub", .once, 2, 3),
    ("substr", .substring, 2, 3), ("system", .system, 1, 1), ("systime", .time, 0, 0),
    ("tolower", .lower, 1, 1), ("toupper", .upper, 1, 1)]

end Builtin

inductive Expr where
  | number (x : Float)
  | text (s : String)
  | regex (r : Regex.Compiled)
  | variable (v : Name)
  | element (v : Name) (keys : List Expr)
  | field (e : Expr)
  | group (e : Expr)
  | assign (target : Expr) (op : Option Operation) (e : Expr)
  /-- Adds to a variable; its value is taken before or behind that. -/
  | step (target : Expr) (by' : Float) (isBefore : Bool)
  | choose (c a b : Expr)
  | both (a b : Expr)
  | either (a b : Expr)
  | not (e : Expr)
  | negate (e : Expr)
  | plus (e : Expr)
  | compute (op : Operation) (a b : Expr)
  | compare (r : Relation) (a b : Expr)
  | fits (a b : Expr) (isNegated : Bool)
  | isKey (keys : List Expr) (v : Name)
  | join (a b : Expr)
  | call (f : Nat) (arguments : List Expr)
  | builtin (f : Builtin) (arguments : List Expr)
  | next (target : Option Expr)
  | nextOfFile (path : Expr) (target : Option Expr)
  | nextOfCommand (command : Expr) (target : Option Expr)
deriving Inhabited

def Expr.isTarget : Expr → Bool
  | .variable _ | .element .. | .field _ => true
  | _ => false

/-- Where printed text goes instead of the output. -/
inductive Outlet where
  | file
  | append
  | command
deriving DecidableEq

inductive Statement where
  | evaluate (e : Expr)
  | print (es : List Expr) (outlet : Option (Outlet × Expr))
  | format (es : List Expr) (outlet : Option (Outlet × Expr))
  | block (ss : List Statement)
  | choose (c : Expr) (a : Statement) (b : Option Statement)
  | whileLoop (c : Expr) (s : Statement)
  | untilLoop (s : Statement) (c : Expr)
  | forLoop (c : Option Expr) (behind : Option Expr) (s : Statement)
  | forKeys (target : Expr) (v : Name) (s : Statement)
  | leaveLoop
  | continueLoop
  | nextRecord
  | nextFile
  | exit (status : Option Expr)
  | return (value : Option Expr)
  | delete (v : Name) (keys : List Expr)
  | clear (v : Name)
deriving Inhabited

inductive Pattern where
  | begin
  | finish
  | always
  | test (e : Expr)
  /-- From a record to another one; the number tells ranges apart. -/
  | range (n : Nat) (a b : Expr)

structure Rule where
  pattern : Pattern
  body : Option Statement

structure Function where
  arity : Nat
  body : Statement
deriving Inhabited

structure Script where
  rules : List Rule
  functions : Array Function
  /-- The shared variables; the special ones come first. -/
  names : Array String
deriving Inhabited

def specialNames : Array String :=
  #["NF", "NR", "FNR", "FILENAME", "FS", "OFS", "RS", "ORS", "SUBSEP", "RSTART", "RLENGTH",
    "CONVFMT", "OFMT", "ENVIRON", "ARGC", "ARGV"]

namespace Special

def fieldCount : Nat := 0
def recordNumber : Nat := 1
def fileRecordNumber : Nat := 2
def fileName : Nat := 3
def fieldSeparator : Nat := 4
def outputFieldSeparator : Nat := 5
def recordSeparator : Nat := 6
def outputRecordSeparator : Nat := 7
def keySeparator : Nat := 8
def matchStart : Nat := 9
def matchLength : Nat := 10
def conversion : Nat := 11
def outputFormat : Nat := 12
def environment : Nat := 13
def argumentCount : Nat := 14
def arguments : Nat := 15

end Special

def regexManner : Regex.Manner :=
  { isExtended := true, hasEscapes := true, quotesInBrackets := true, hasSpecials := false,
    closesFreely := true }

def lacksOperand : Regex → Bool
  | .empty | .set _ | .anchor _ | .back _ => false
  | .seq a b => lacksOperand a || lacksOperand b
  | .alt a b => isEmpty a || isEmpty b || lacksOperand a || lacksOperand b
  | .many r _ _ => lacksOperand r
  | .group _ r => isEmpty r || lacksOperand r
where
  isEmpty : Regex → Bool
    | .empty => true
    | _ => false

def badRegex (s reason : String) : String :=
  "regular expression compile failed (" ++ reason ++ ")\n" ++ s

def numbered : Nat → List Char → List Char
  | 0, cs => cs
  | _, [] => []
  | n + 1, '\\' :: c :: rest =>
    let character (base : Nat) (ds : List Char) (rest : List Char) : List Char :=
      let d := Char.ofNat (Text.Escape.value base ds % 256)
      if d.isAlphanum then d :: numbered n rest else '\\' :: d :: numbered n rest
    let hexadecimal := (rest.take 2).takeWhile Text.Escape.isHexadecimal
    if c == 'b' then '\x08' :: numbered n rest
    else if c == 'x' && !hexadecimal.isEmpty then
      character 16 hexadecimal (rest.drop hexadecimal.length)
    else
      let octal := ((c :: rest).take 3).takeWhile Text.Escape.isOctal
      if octal.isEmpty then '\\' :: c :: numbered n rest
      else character 8 octal ((c :: rest).drop octal.length)
  | n + 1, c :: rest => c :: numbered n rest

def regex? (s : String) : Except String Regex.Compiled :=
  match Regex.read regexManner (String.ofList (numbered (s.length + 1) s.toList)) with
  | .ok r =>
    if lacksOperand r then .error (badRegex s "missing operand")
    else .ok (Regex.compile r).withoutGroups
  | .error e =>
    .error (badRegex s (
      if e == Regex.invalidBefore then "missing operand"
      else if e.startsWith "Unmatched (" then "missing ')'"
      else if e.startsWith "Unmatched [" || e.startsWith "Invalid" then
        "bad class -- [], [^] or ["
      else "bad expression"))

end Remedy.Tool.Records
