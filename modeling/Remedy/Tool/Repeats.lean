import Remedy.Tool.Input

namespace Remedy.Tool.Repeats

def isBlank (c : Char) : Bool := c == ' ' || c == '\t' || c == '\n'

def afterFields : Nat → List Char → List Char
  | 0, cs => cs
  | n + 1, cs => afterFields n ((cs.dropWhile isBlank).dropWhile (!isBlank ·))

def runs (same : String → String → Bool) : List String → List (List String)
  | [] => []
  | a :: rest =>
    match runs same rest with
    | (b :: more) :: others =>
      if same a b then (a :: b :: more) :: others else [a] :: (b :: more) :: others
    | others => [a] :: others

/-- An old way to skip fields or characters: a sign and digits. -/
def oldNumber (w : String) : String :=
  match w.toList with
  | sign :: c :: cs =>
    if (c :: cs).all Char.isDigit then
      if sign == '-' then String.ofList ('-' :: 'f' :: c :: cs)
      else if sign == '+' then String.ofList ('-' :: 's' :: c :: cs)
      else w
    else w
  | _ => w

def uniq (words : List String) : Tool Unit := do
  let g ← given [opt 'c' "count", opt 'd' "repeated", opt 'D' "", opt 'u' "unique",
    opt 'i' "ignore-case", opt 'f' "skip-fields" .argument, opt 's' "skip-chars" .argument,
    opt 'w' "check-chars" .argument, opt 'z' "zero-terminated", long "all-repeated" .maybe,
    long "group" .maybe] (words.map oldNumber)
  bound g 2
  let number (key what : String) : Tool (Option Nat) := do
    match g.argument? key with
    | none => return none
    | some text =>
      match natural? text with
      | some n => return some n
      | none => fail 1 (text ++ ": invalid number of " ++ what)
  let fields := (← number "f" "fields to skip").getD 0
  let chars := (← number "s" "bytes to skip").getD 0
  let compared ← number "w" "bytes to compare"
  let ending := if g.has "z" then '\x00' else '\n'
  let separates ← choiceOf g "all-repeated" "--all-repeated" [["none"], ["prepend"], ["separate"]]
  let how ← choiceOf g "group" "--group" [["prepend"], ["append"], ["separate"], ["both"]]
  let repeats := g.has "D" || g.has "all-repeated"
  if g.has "group" && (repeats || g.has "c" || g.has "d" || g.has "u") then
    refuse 1 "--group is mutually exclusive with -c/-d/-D/-u"
  if repeats && g.has "c" then
    refuse 1 "printing all duplicated lines and repeat counts is meaningless"
  let path := g.operands.headD "-"
  match ← readAll path with
  | .error e =>
    fail 1 ((if e = .isDirectory then "error reading " ++ quotedAlways path else quoted path) ++
      ": " ++ e.message)
  | .ok text =>
    let key (line : String) : String :=
      let cs := (afterFields fields line.toList).drop chars
      let cs := match compared with
        | some n => cs.take n
        | none => cs
      String.ofList (if g.has "i" then cs.map Char.toUpper else cs)
    let keyed := (linesOf text ending).1
    let all := runs (fun a b => key a == key b) keyed
    let all := all.filter fun run =>
      (!g.has "d" || run.length > 1) && (!g.has "u" || run.length = 1)
    let shown : List String :=
      if repeats then
        let groups := all.filter (·.length > 1)
        let groups := groups.zipIdx.map fun (run, i) =>
          if separates == some "prepend" || (separates == some "separate" && i > 0) then "" :: run else run
        groups.flatten
      else if g.has "group" then
        let how := how.getD "separate"
        let groups := all.zipIdx.map fun (run, i) =>
          let front := how == "prepend" || how == "both" || (i > 0 && how != "append")
          let front := if how == "both" then i = 0 || front else front
          (if front then [""] else []) ++ run ++ (if how == "append" then [""] else [])
        groups.flatten ++ (if how == "both" && !all.isEmpty then [""] else [])
      else
        all.map fun run =>
          (if g.has "c" then padLeft (toString run.length) 7 ++ " " else "") ++ run.headD ""
    let output := unlines shown true (String.singleton ending)
    match g.operands[1]? with
    | none | some "-" => put output
    | some path =>
      match ← sys (.open path .output) with
      | .ok fd =>
        let _ ← act (Unix.Act.writeTo fd output)
        let _ ← sys (.close fd)
      | .error e => fail 1 (quoted path ++ ": " ++ e.message)

def catalogue : List (String × (List String → Tool Unit)) := [("uniq", uniq)]

end Remedy.Tool.Repeats
