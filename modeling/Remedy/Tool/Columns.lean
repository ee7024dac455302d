import Remedy.Tool.Input

namespace Remedy.Tool.Columns

def separators (s : String) : Option (List String) :=
  let rec go : List Char → Option (List String)
    | ['\\'] => none
    | '\\' :: c :: rest => do
      let more ← go rest
      return (match c with
      | 'b' => "\x08"
      | 'f' => "\x0c"
      | 'n' => "\n"
      | 'r' => "\r"
      | 't' => "\t"
      | 'v' => "\x0b"
      | '0' => ""
      | c => String.singleton c) :: more
    | c :: rest => do return String.singleton c :: (← go rest)
    | [] => some []
  go s.toList

def glued (separators : List String) (columns : List String) : String :=
  let count := max 1 separators.length
  match columns with
  | [] => ""
  | first :: rest => first ++ String.join (rest.zipIdx.map fun (c, i) =>
      separators.getD (i % count) "" ++ c)

/-- Opens files; where one that cannot be read ends the tool, it does so before any line. -/
def openAll (endsAtOnce : Bool) : List String → Tool (List (String × Nat))
  | [] => return []
  | "-" :: rest => return ("-", 0) :: (← openAll endsAtOnce rest)
  | path :: rest => do
    match ← sys (.open path .input) with
    | .ok fd => return (path, fd) :: (← openAll endsAtOnce rest)
    | .error e =>
      complain (quoted path ++ ": " ++ e.message)
      note 1
      if endsAtOnce then stop else openAll endsAtOnce rest

def linesFrom (separator : Char) (path : String) (fd : Nat) : Tool (List String) := do
  match ← act (Unix.Act.readAll fd) with
  | .ok text => return (linesOf text separator).1
  | .error e =>
    complain (quoted path ++ ": " ++ e.message)
    note 1
    return []

def paste (words : List String) : Tool Unit := do
  let g ← given [opt 's' "serial", opt 'd' "delimiters" .argument, opt 'z' "zero-terminated"] words
  let text := (g.argument? "d").getD "\t"
  let ss ← match separators text with
    | some ss => pure ss
    | none => fail 1 ("delimiter list ends with an unescaped backslash: " ++ text)
  let ending := if g.has "z" then '\x00' else '\n'
  let paths := if g.operands.isEmpty then ["-"] else g.operands
  if g.has "s" then
    paths.forM fun path => do
      for (path, fd) in ← openAll false [path] do
        put ((glued ss (← linesFrom ending path fd)).push ending)
        if fd ≠ 0 then
          let _ ← sys (.close fd)
  else
    let opened ← openAll true paths
    let inputs := (paths.filter (· == "-")).length
    let input ← if inputs = 0 then pure [] else linesFrom ending "-" 0
    -- the lines of the input are dealt out among its columns
    let rec collect : List (String × Nat) → Nat → Tool (List (List String))
      | [], _ => return []
      | (path, fd) :: rest, k => do
        if path == "-" then
          let dealt := (input.zipIdx.filter fun (_, i) => i % inputs = k).map (·.1)
          return dealt :: (← collect rest (k + 1))
        else
          let lines ← linesFrom ending path fd
          let _ ← sys (.close fd)
          return lines :: (← collect rest k)
    let columns := (← collect opened 0).map List.toArray
    let count := columns.foldl (fun n c => max n c.size) 0
    (List.range count).forM fun i =>
      put ((glued ss (columns.map fun c => c.getD i "")).push ending)

def catalogue : List (String × (List String → Tool Unit)) := [("paste", paste)]

end Remedy.Tool.Columns
