import Remedy.Files.FileSystem

namespace Remedy.Shell

/-- A character of a pattern and whether it is quoted, so that it stands for itself. -/
abbrev Glyph := Char × Bool

namespace Pattern

def ofString (s : String) (quoted : Bool) : List Glyph := s.toList.map (·, quoted)

def text (p : List Glyph) : String := String.ofList (p.map (·.1))

def unescaped : List Glyph → List Glyph
  | ('\\', false) :: (c, _) :: rest => (c, true) :: unescaped rest
  | g :: rest => g :: unescaped rest
  | [] => []

/-- Whether a pattern holds a character that may stand for others. -/
def isActive (p : List Glyph) : Bool :=
  p.any fun (c, quoted) => !quoted && (c == '*' || c == '?' || c == '[')

def inClass (name : String) (c : Char) : Bool :=
  let isPrinted := ' ' < c && c < '\x7f'
  match name with
  | "alpha" => c.isAlpha
  | "digit" => c.isDigit
  | "alnum" => c.isAlphanum
  | "upper" => c.isUpper
  | "lower" => c.isLower
  | "space" => c == ' ' || ('\t' ≤ c && c ≤ '\r')
  | "blank" => c == ' ' || c == '\t'
  | "punct" => isPrinted && !c.isAlphanum
  | "print" => c == ' ' || isPrinted
  | "graph" => isPrinted
  | "cntrl" => c < ' ' || c == '\x7f'
  | "xdigit" => c.isDigit || ('a' ≤ c && c ≤ 'f') || ('A' ≤ c && c ≤ 'F')
  | _ => false

/-- A class between `[:` and `:]` at the beginning of what follows a bracket, and what is left. -/
def class? (p : List Glyph) : Option (String × List Glyph) :=
  match p with
  | (':', false) :: rest =>
    let name := rest.takeWhile (·.1.isAlpha)
    match rest.drop name.length with
    | (':', _) :: (']', _) :: rest => some (text name, rest)
    | _ => none
  | _ => none

/-- Whether a bracket expression has a character, and what follows it; `isFirst` says that no member
has been read, so that a bracket is a member. -/
def members? (c : Char) : Nat → Bool → Bool → List Glyph → Option (Bool × List Glyph)
  | 0, _, _, _ => none
  | fuel + 1, isFirst, found, p =>
    match p with
    | [] => none
    | (']', false) :: rest =>
      if isFirst then single fuel ']' rest found else some (found, rest)
    | ('[', false) :: rest =>
      match class? rest with
      | some (name, rest) => members? c fuel false (found || inClass name c) rest
      | none => single fuel '[' rest found
    | (d, _) :: rest => single fuel d rest found
where
  single (fuel : Nat) (low : Char) (rest : List Glyph) (found : Bool) :
      Option (Bool × List Glyph) :=
    match rest with
    | ('-', false) :: (']', false) :: _ => members? c fuel false (found || c == low) rest
    | ('-', false) :: (high, _) :: rest =>
      members? c fuel false (found || (low ≤ c && c ≤ high)) rest
    | _ => members? c fuel false (found || c == low) rest

/-- A bracket expression after its opening bracket: whether it has a character, and what follows. -/
def bracket? (c : Char) (p : List Glyph) : Option (Bool × List Glyph) :=
  let (negated, p) := match p with
    | ('!', false) :: rest | ('^', false) :: rest => (true, rest)
    | _ => (false, p)
  (members? c (2 * p.length + 2) true false p).map fun (has, rest) => (has != negated, rest)

def matchesWithin : Nat → List Glyph → List Char → Bool
  | 0, _, _ => false
  | _, [], cs => cs.isEmpty
  | fuel + 1, ('*', false) :: p, cs =>
    match p with
    | [] => true
    | _ =>
      matchesWithin fuel p cs ||
        match cs with
        | [] => false
        | _ :: cs => matchesWithin fuel (('*', false) :: p) cs
  | _, _ :: _, [] => false
  | fuel + 1, (g, quoted) :: p, c :: cs =>
    if quoted then g == c && matchesWithin fuel p cs
    else if g == '?' then matchesWithin fuel p cs
    else if g == '[' then
      match bracket? c p with
      | some (has, rest) => has && matchesWithin fuel rest cs
      | none => g == c && matchesWithin fuel p cs
    else g == c && matchesWithin fuel p cs

def acceptsChars (p : List Glyph) (cs : List Char) : Bool :=
  matchesWithin (p.length + cs.length + 1) p cs

def accepts (p : List Glyph) (s : String) : Bool := acceptsChars (unescaped p) s.toList

/-- Takes the shortest or the longest piece that matches off the beginning or the end of a text. -/
def cut (p : List Glyph) (s : String) (atEnd longest : Bool) : String :=
  let cs := s.toList
  let p := unescaped p
  let lengths := List.range (cs.length + 1)
  let lengths := if longest then lengths.reverse else lengths
  let isMatch (n : Nat) : Bool :=
    acceptsChars p (if atEnd then cs.drop (cs.length - n) else cs.take n)
  match lengths.find? isMatch with
  | none => s
  | some n => String.ofList (if atEnd then cs.take (cs.length - n) else cs.drop n)

open Files

structure Rules where
  hasDots : Bool := true
  takesHidden : Bool := false
  goesDeep : Bool := false

def namesIn (fs : FileSystem) (cwd : List Name) (path : String) : List String :=
  match fs.find cwd (FileSystem.path (if path = "" then "." else path)) with
  | .ok (.directory _ entries) =>
    (entries.map fun e => Text.Octets.ofList e.1).mergeSort fun a b => decide (a ≤ b)
  | _ => []

def isThere (fs : FileSystem) (cwd : List Name) (path : String) : Bool :=
  (fs.lookup cwd (FileSystem.path (if path = "" then "." else path)) false).toOption.isSome

def isDirectory (fs : FileSystem) (cwd : List Name) (path : String) : Bool :=
  match fs.lookup cwd (FileSystem.path (if path = "" then "." else path)) false with
  | .ok node => node.isDirectory
  | .error _ => false

/-- The paths of the directories below one, itself first; they end in a slash. -/
def directoriesBelow (fs : FileSystem) (cwd : List Name) : Nat → String → List String
  | 0, path => [path]
  | depth + 1, path =>
    path :: ((namesIn fs cwd path).filter fun name =>
      name.toList.head? != some '.' && isDirectory fs cwd (path ++ name)).flatMap fun name =>
        directoriesBelow fs cwd depth (path ++ name ++ "/")

def pathsFrom (fs : FileSystem) (cwd : List Name) (rules : Rules) :
    List (List Glyph) → String → List String
  | [], path => [path]
  | segment :: rest, path =>
    let extend (name : String) := if rest.isEmpty then path ++ name else path ++ name ++ "/"
    if rules.goesDeep && segment == [('*', false), ('*', false)] then
      let below := directoriesBelow fs cwd 64 path
      if rest.isEmpty then
        (below.flatMap fun d =>
          ((namesIn fs cwd d).filter (·.toList.head? != some '.')).map (d ++ ·)).mergeSort
            fun a b => decide (a ≤ b)
      else below.flatMap fun d => pathsFrom fs cwd rules rest d
    else if isActive segment then
      let begins := (unescaped segment).head?.map (·.1)
      let names := if rules.hasDots then "." :: ".." :: namesIn fs cwd path
        else namesIn fs cwd path
      let shown := names.filter fun name =>
        (name.toList.head? != some '.' || begins == some '.' ||
          (rules.takesHidden && name != "." && name != "..")) &&
            accepts segment name
      shown.flatMap fun name =>
        if rest.isEmpty then [path ++ name] else pathsFrom fs cwd rules rest (extend name)
    else
      let next := extend (text (unescaped segment))
      if isThere fs cwd next then pathsFrom fs cwd rules rest next else []

def pathSegments (field : List Glyph) : List (List Glyph) :=
  field.foldr (fun g parts =>
    if g.1 = '/' then [] :: parts
    else match parts with
      | part :: rest => (g :: part) :: rest
      | [] => [[g]]) [[]]

def expand? (fs : FileSystem) (cwd : List Name) (rules : Rules) (field : List Glyph) :
    Option (List String) :=
  if isActive field then
    match pathsFrom fs cwd rules (pathSegments field) "" with
    | [] => none
    | paths => some (paths.mergeSort fun a b => decide (a ≤ b))
  else none

end Pattern

end Remedy.Shell
