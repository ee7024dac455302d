import Remedy.Tool.Input

namespace Remedy.Tool.Counting

structure Counts where
  lines : Nat := 0
  words : Nat := 0
  characters : Nat := 0
  octets : Nat := 0
  longest : Nat := 0

def isBlank (c : Char) : Bool := c == ' ' || ('\t' ≤ c && c ≤ '\r')

def longest (cs : List Char) : Nat :=
  let (most, last) := cs.foldl (fun (most, width) c =>
    match c with
    | '\n' | '\r' | '\x0c' => (max most width, 0)
    | '\t' => (most, (width / 8 + 1) * 8)
    | c => (most, if c < ' ' || c ≥ '\x7f' then width else width + 1)) (0, 0)
  max most last

def counts (text : String) : Counts :=
  let cs := text.toList
  let (words, _) := cs.foldl (fun (n, inside) c =>
    if isBlank c then (n, false) else if inside then (n, true)
    else if c < '!' || c ≥ '\x7f' then (n, inside) else (n + 1, true)) (0, false)
  let size := cs.length
  { lines := cs.countP (· == '\n'), words, characters := size, octets := size
    longest := longest cs }

def Counts.add (a b : Counts) : Counts :=
  { lines := a.lines + b.lines, words := a.words + b.words
    characters := a.characters + b.characters, octets := a.octets + b.octets
    longest := max a.longest b.longest }

/-- The files whose names stand in another one, each ended by a zero. -/
def listed (path : String) : Tool (List String) := do
  match ← readAll path with
  | .ok text => return (linesOf text '\x00').1
  | .error e => fail 1 ("cannot open " ++ quotedAlways path ++ " for reading: " ++ e.message)

def wc (words : List String) : Tool Unit := do
  let g ← given [opt 'l' "lines", opt 'w' "words", opt 'm' "chars", opt 'c' "bytes",
    opt 'L' "max-line-length", long "total" .argument, long "files0-from" .argument,
    long "debug"] words
  let showsTotal ← choiceOf g "total" "--total" [["auto"], ["always"], ["only"], ["never"]]
  let list := g.argument? "files0-from"
  match list, g.operands with
  | some _, w :: _ => refuseBesideList 1 w
  | _, _ => pure ()
  let chosen := ["l", "w", "m", "c", "L"].filter g.has
  let keys := if chosen.isEmpty then ["l", "w", "c"] else chosen
  let values (c : Counts) : List Nat := keys.map fun
    | "l" => c.lines
    | "w" => c.words
    | "m" => c.characters
    | "c" => c.octets
    | _ => c.longest
  let paths ← match list with
    | some path => listed path
    | none => pure (if g.operands.isEmpty then ["-"] else g.operands)
  let isNamed := list.isSome || !g.operands.isEmpty
  let view ← look
  -- the width of the columns comes from the sizes of the files
  let sizes := paths.map fun path =>
    if path == "-" then
      match view.descriptors.lookup 0 with
      | some (.file n) => some (Files.Status.ofInode view.files .regular n).size
      | _ => none
    else
      match view.status path true with
      | .ok s => if s.kind == .regular then some s.size else none
      | .error _ => some 0
  let width :=
    if showsTotal == some "only" then 1
    else if list == some "-" then 1
    else if keys.length = 1 && paths.length = 1 then 1
    else
      let widest := (toString (sizes.foldl (fun n s => n + s.getD 0) 0)).length
      if sizes.any (·.isNone) then max 7 widest else widest
  let line (c : Counts) (name : Option String) : String :=
    " ".intercalate ((values c).map fun n => padLeft (toString n) width) ++
      (name.elim "" (" " ++ ·)) ++ "\n"
  let tell (c : Counts) (name : Option String) : Tool Unit :=
    unless showsTotal == some "only" do put (line c name)
  let rec go : List String → Nat → Counts → Tool Counts
    | [], _, total => return total
    | path :: rest, n, total => do
      let name := if isNamed then some path else none
      if path == "" then
        match list with
        | some l => complain (quoted l ++ ":" ++ toString n ++ ": invalid zero-length file name")
        | none => complain "invalid zero-length file name"
        note 1
        go rest (n + 1) total
      else
        match ← readAll path with
        | .ok text =>
          let c := counts text
          tell c name
          go rest (n + 1) (total.add c)
        | .error e =>
          complain (quoted path ++ ": " ++ e.message)
          note 1
          if e = .isDirectory then tell {} name
          go rest (n + 1) total
  let total ← go paths 1 {}
  match showsTotal with
  | some "only" => put (line total none)
  | some "always" => put (line total (some "total"))
  | some "never" => pure ()
  | _ => if paths.length > 1 then put (line total (some "total"))

def catalogue : List (String × (List String → Tool Unit)) := [("wc", wc)]

end Remedy.Tool.Counting
