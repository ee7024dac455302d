import Remedy.Shell.Arithmetic
import Remedy.Shell.Pattern
import Remedy.Shell.State
import Remedy.Unix.World

namespace Remedy.Shell.Expansion

open Unix Files

/-- What a word holds after its parts are expanded. -/
inductive Piece where
  | char (c : Char) (quoted splits : Bool)
  | boundary
  | mark

abbrev Runner := Command → ShellM String

def ofText (quoted : Bool) (s : String) : List Piece := s.toList.map (.char · quoted (!quoted))

def written (quoted : Bool) (s : String) : List Piece :=
  if quoted then .mark :: s.toList.map (.char · true false)
  else s.toList.map (.char · false false)

def text (ps : List Piece) : String :=
  String.ofList (ps.filterMap fun
    | .char c _ _ => some c
    | .boundary | .mark => none)

def glyphs (ps : List Piece) : List Glyph :=
  ps.filterMap fun
    | .char c quoted _ => some (c, quoted)
    | .boundary | .mark => none

def joined (joint : String) (ps : List Piece) : List Piece :=
  ps.flatMap fun
    | .boundary => ofText true joint
    | p => [p]

structure Cut where
  fields : List (List Piece) := []
  current : List Piece := []
  isBegun : Bool := false
  /-- Whether blanks have just ended a field, so that another separator belongs to them. -/
  afterBlank : Bool := false

namespace Cut

def finish (c : Cut) (afterBlank : Bool) : Cut :=
  { fields := c.current.reverse :: c.fields, afterBlank }

def add (separators : List Char) (c : Cut) (p : Piece) : Cut :=
  match p with
  | .char ch _ true =>
    if separators.contains ch then
      if ch == ' ' || ch == '\t' || ch == '\n' then
        if c.isBegun then c.finish true else c
      else if c.isBegun then c.finish false
      else if c.afterBlank then { c with afterBlank := false }
      else c.finish false
    else { c with current := p :: c.current, isBegun := true, afterBlank := false }
  | .char .. => { c with current := p :: c.current, isBegun := true, afterBlank := false }
  | .mark => { c with isBegun := true, afterBlank := false }
  | .boundary => if c.isBegun then c.finish true else c

def run (separators : String) (ps : List Piece) : List (List Piece) :=
  let c := ps.foldl (add separators.toList) {}
  (if c.isBegun then c.finish false else c).fields.reverse

end Cut

def optionOrder : Dialect → List Char
  | .plain => "pubaCEVvxsnmiIfe".toList
  | .extended => "abefhikmnptuvxBCEHPTcs".toList

def special? (s : State) (name : String) : Option (Option String) :=
  match name.toList with
  | ['?'] => some (some (toString s.status))
  | ['#'] => some (some (toString s.positional.length))
  | ['$'] => some (some (toString s.pid))
  | ['!'] => some (s.background.map toString)
  | ['-'] => some (some (String.ofList ((optionOrder s.dialect).filter s.isOn)))
  | ['0'] => some (some s.name)
  | c :: cs =>
    if (c :: cs).all Char.isDigit then
      let n := (c :: cs).foldl (fun n c => 10 * n + (c.toNat - 48)) 0
      some (if n = 0 then some s.name else s.positional[n - 1]?)
    else none
  | [] => none

def dynamic? (s : State) (clock : Nat) (name : String) : Option String :=
  if s.dialect == .plain then none
  else
    match name with
    | "RANDOM" => some (toString (s.random / 65536 % 32768))
    | "LINENO" => some (toString s.line)
    | "SECONDS" => some (toString (clock / 1000000000))
    | "BASHPID" => some (toString s.pid)
    | "UID" | "EUID" => some "0"
    | "PIPESTATUS" => some (toString (s.pipeStatus.headD s.status))
    | _ => none

def lookup (name : String) : ShellM (Option String) := do
  let s ← get
  match special? s name with
  | some value => return value
  | none =>
    match s.value? name with
    | some v => return some v
    | none =>
      if s.dialect == .plain then return none
      let view ← ShellM.look
      if name == "RANDOM" then
        set { s with random := (s.random * 1103515245 + 12345) % twoTo 31 }
      return dynamic? s view.clock name

def arithmetic (source : String) : ShellM Int := do
  let s ← get
  let extended := s.dialect == .extended
  let look (name : String) : Option String :=
    match special? s name with
    | some v => v
    | none => match s.value? name with
      | some v => some v
      | none => dynamic? s 0 name
  match Arithmetic.evaluate { extended, text := look } source with
  | .ok (n, assigned) =>
    assigned.forM fun (name, n) => ShellM.assign name (toString n)
    return n
  | .error (.noNumber text) => ShellM.fail ("Illegal number: " ++ text)
  | .error (.malformed reason) =>
    if extended then
      let trimmed := String.ofList (source.toList.dropWhile Arithmetic.isBlank)
      match reason with
      | "division by zero" =>
        let token := String.ofList ((source.toList.reverse.takeWhile fun c =>
          c != '/' && c != '%').reverse.dropWhile Arithmetic.isBlank)
        ShellM.fail (trimmed ++ ": division by 0 (error token is \"" ++ token ++ "\")")
      | _ =>
        ShellM.fail (trimmed ++ ": syntax error: operand expected (error token is \"" ++ trimmed
          ++ "\")")
    else ShellM.fail ("arithmetic expression: " ++ reason ++ ": \"" ++ source ++ "\"")

def homes : List (String × String) :=
  [("root", "/root"), ("daemon", "/usr/sbin"), ("bin", "/bin"), ("sys", "/dev"),
    ("nobody", "/nonexistent"), ("www-data", "/var/www"), ("mail", "/var/mail"),
    ("man", "/var/cache/man"), ("games", "/usr/games"), ("backup", "/var/backups")]

def home (name : String) : ShellM (Option String) := do
  if name == "" then return (← get).value? "HOME"
  else if name == "+" && (← ShellM.isExtended) then return (← get).value? "PWD"
  else if name == "-" && (← ShellM.isExtended) then return (← get).value? "OLDPWD"
  else return homes.lookup name

/-- Expands the tilde at the beginning of a literal, which ends the word if `isLast`. -/
def tilde (isAssignment isLast : Bool) (s : String) : ShellM (List Piece) := do
  match s.toList with
  | '~' :: cs =>
    let name := cs.takeWhile fun c => c != '/' && !(isAssignment && c == ':')
    let rest := cs.drop name.length
    if rest.isEmpty && !isLast then return written false s
    else
      match ← home (String.ofList name) with
      | some h => return ofText true h ++ written false (String.ofList rest)
      | none => return written false s
  | _ => return written false s

/-- Expands a literal of an assignment: tildes stand behind colons too. -/
def tildes (isLast atStart : Bool) (s : String) : ShellM (List Piece) := do
  let segments := Text.segments ':' s.toList
  let last := segments.length - 1
  let expanded ← segments.zipIdx.mapM fun (segment, i) => do
    let here := String.ofList segment
    let ps ← if i = 0 && !atStart then pure (written false here)
      else tilde true (isLast || i < last) here
    return if i = 0 then ps else .char ':' false false :: ps
  return expanded.flatten

structure Manner where
  isAssignment : Bool := false
  hasTilde : Bool := true

def upper (c : Char) : Char := c.toUpper

def lower (c : Char) : Char := c.toLower

def changeCase (how : CaseChange) (s : String) : String :=
  match how, s.toList with
  | .upperAll, cs => String.ofList (cs.map upper)
  | .lowerAll, cs => String.ofList (cs.map lower)
  | .upperFirst, c :: cs => String.ofList (upper c :: cs)
  | .lowerFirst, c :: cs => String.ofList (lower c :: cs)
  | _, [] => ""

def longestMatch? (p : List Glyph) (cs : List Char) : Option Nat :=
  (List.range (cs.length + 1)).reverse.find? fun n => Pattern.acceptsChars p (cs.take n)

def replaceIn (p : List Glyph) (by' : String) (all : Bool) : Nat → List Char → List Char
  | 0, cs => cs
  | _, [] => []
  | fuel + 1, c :: cs =>
    match longestMatch? p (c :: cs) with
    | some (n + 1) =>
      let rest := (c :: cs).drop (n + 1)
      by'.toList ++ (if all then replaceIn p by' all fuel rest else rest)
    | _ => c :: replaceIn p by' all fuel cs

def replace (how : Replacing) (p : List Glyph) (by' : String) (s : String) : String :=
  let p := Pattern.unescaped p
  let cs := s.toList
  match how with
  | .first => String.ofList (replaceIn p by' false cs.length cs)
  | .all => String.ofList (replaceIn p by' true cs.length cs)
  | .atStart =>
    match longestMatch? p cs with
    | some n => by' ++ String.ofList (cs.drop n)
    | none => s
  | .atEnd =>
    match (List.range (cs.length + 1)).find? fun n => Pattern.acceptsChars p (cs.drop n) with
    | some n => String.ofList (cs.take n) ++ by'
    | none => s

def singleQuoted (s : String) : String :=
  let one (c : Char) : String := if c == '\'' then "'\\''" else String.singleton c
  "'" ++ String.join (s.toList.map one) ++ "'"

def slice (offset : Int) (length : Option Int) (xs : List α) : List α :=
  let size : Int := xs.length
  let start := if offset < 0 then size + offset else offset
  if start < 0 ∨ start > size then []
  else
    let finish := match length with
      | none => size
      | some n => if n < 0 then size + n else min size (start + n)
    (xs.drop start.toNat).take (finish - start).toNat

/-- The value of a parameter before it is used: one text, or a list of them. -/
inductive Value where
  | one (text : Option String)
  | many (texts : List String) (isJoined : Bool)

def unset (name : String) : ShellM α := do
  if (← get).dialect == .plain then ShellM.fail (name ++ ": parameter not set")
  else ShellM.fail (name ++ ": unbound variable")

def listed (quoted : Bool) (texts : List String) : List Piece :=
  let each (s : String) : List Piece := if quoted then written true s else ofText false s
  match texts with
  | [] => []
  | t :: ts => each t ++ ts.flatMap fun t => .boundary :: each t

def statuses (s : State) : List (String × String) :=
  s.pipeStatus.zipIdx.map fun (status, i) => (toString i, toString status)

def provide (text : String) : ShellM Nat := do
  let (reading, writing) ← ShellM.sys .pipe
  if text.length ≤ World.pipeSize then
    let _ ← ShellM.writeTo writing text
  else
    let _ ← ShellM.fork fun _ =>
      (do
        let _ ← Act.ask (.close reading)
        Act.writeTo writing text : Act (Except Errno Unit)) fun _ => .exit 0
  let _ ← ShellM.sys (.close writing)
  return reading

def lastDescriptor : Nat := 63

def provideFile (text : String) : ShellM String := do
  let reading ← provide text
  let taken := (← ShellM.look).descriptors.map (·.1)
  let numbers := (List.range (lastDescriptor + 1)).reverse
  let fd := (numbers.find? fun n => !taken.contains n).getD lastDescriptor
  let _ ← ShellM.sys (.copyTo reading fd)
  let _ ← ShellM.sys (.close reading)
  return "/dev/fd/" ++ toString fd

section

variable (run : Runner)

mutual

def parts : Nat → Manner → List Part → ShellM (List Piece)
  | 0, _, _ => ShellM.fail "expansions too deep"
  | n + 1, m, ps => do
    let last := ps.length - 1
    let expanded ← ps.zipIdx.mapM fun (p, i) => do
      match p with
      | .literal s false =>
        if !m.hasTilde then return written false s
        else if m.isAssignment then tildes (i = last) (i = 0) s
        else if i = 0 then tilde false (i = last) s
        else return written false s
      | .literal s true => return written true s
      | .substitution body quoted =>
        let output ← run body
        let kept := output.toList.filter (· ≠ '\x00')
        let kept := (kept.reverse.dropWhile (· == '\n')).reverse
        return ofText quoted (String.ofList kept)
      | .arithmetic e quoted =>
        let source ← plain n e
        return ofText quoted (toString (← arithmetic source))
      | .process isInput body =>
        if isInput then return ofText true (← provideFile (← run body))
        else return ofText true "/dev/null"
      | .parameter name index use quoted => parameter n m name index use quoted
    return expanded.flatten

def plain : Nat → List Part → ShellM String
  | 0, _ => ShellM.fail "expansions too deep"
  | n + 1, ps => do
    let m : Manner := { hasTilde := false }
    return text (joined (← get).joint (← parts n m ps))

def valueOf : Nat → String → List Part → ShellM Value
  | 0, _, _ => return .one none
  | n + 1, name, index => do
    let s ← get
    match index with
    | [] =>
      if name == "@" then return .many s.positional false
      else if name == "*" then return .many s.positional true
      else return .one (← lookup name)
    | index =>
      let i ← plain n index
      let v := (s.binding? name).getD {}
      let elements : List (String × String) := match v.elements, v.value with
        | some es, _ => es
        | none, some t => [("0", t)]
        | none, none =>
          if name == "PIPESTATUS" then statuses s else []
      if i == "@" then return .many (elements.map (·.2)) false
      else if i == "*" then return .many (elements.map (·.2)) true
      else if v.isKeyed then return .one (elements.lookup i)
      else
        let k ← arithmetic i
        let k := if k < 0 then k + ((elements.getLast?.bind (·.1.toNat?)).getD 0 + 1 : Nat) else k
        return .one (elements.lookup (toString k))

def parameter : Nat → Manner → String → List Part → Use → Bool → ShellM (List Piece)
  | 0, _, _, _, _, _ => ShellM.fail "expansions too deep"
  | n + 1, m, name, index, use, quoted => do
    let value ← valueOf n name index
    let s ← get
    let isMissing (orNull : Bool) : Bool :=
      match value with
      | .one none => true
      | .one (some t) => orNull && t == ""
      | .many [] _ => true
      | .many ts _ => orNull && ts.all (· == "")
    let pieces (v : Value) : List Piece :=
      match v with
      | .one t => ofText quoted (t.getD "")
      | .many ts isJoined =>
        if quoted && isJoined then ofText true (s.joint.intercalate ts)
        else listed quoted ts
    let word (ps : List Part) : ShellM (List Piece) := do
      let inner ← parts n { m with isAssignment := false, hasTilde := !quoted } ps
      if quoted then return inner
      else
        -- what stands there unquoted is cut into fields like a value
        return inner.map fun
          | .char c false _ => .char c false true
          | p => p
    let pattern (ps : List Part) : ShellM (List Glyph) := do
      return glyphs (joined s.joint (← parts n { hasTilde := false } ps))
    let demandSet : ShellM Unit := do
      if s.isOn 'u' then
        match value with
        | .one none => unset name
        | _ => pure ()
    let mapped (f : String → String) : List Piece :=
      match value with
      | .one t => pieces (.one (t.map f))
      | .many ts isJoined => pieces (.many (ts.map f) isJoined)
    match use with
    | .value =>
      demandSet
      return pieces value
    | .length =>
      demandSet
      match value with
      | .one t => return ofText quoted (toString (t.getD "").length)
      | .many ts _ =>
        if s.dialect == .plain then
          let joint := if s.joint == "" then 0 else 1
          let size := ts.foldl (fun n t => n + t.length) 0 + joint * (ts.length - 1)
          return ofText quoted (toString size)
        else return ofText quoted (toString ts.length)
    | .ifUnset orNull w => if isMissing orNull then word w else return pieces value
    | .ifSet orNull w => if isMissing orNull then return [] else word w
    | .assign orNull w =>
      if isMissing orNull then
        let ps ← parts n { isAssignment := true, hasTilde := !quoted } w
        let t := text (joined s.joint ps)
        if index.isEmpty && !isName name then
          ShellM.fail (name ++ ": bad variable name")
        else
          let target ← if index.isEmpty then pure name
            else do pure (name ++ "[" ++ (← plain n index) ++ "]")
          ShellM.assign target t
          return ofText quoted t
      else return pieces value
    | .demand orNull w =>
      if isMissing orNull then
        let message ← if w.isEmpty then
            pure (if s.dialect == .plain then
                "parameter not set" ++ (if orNull then " or null" else "")
              else if orNull then "parameter null or not set" else "parameter not set")
          else do
            let ps ← parts n {} w
            pure (text (joined s.joint ps))
        ShellM.fail (name ++ ": " ++ message)
      else return pieces value
    | .cut atEnd longest p =>
      demandSet
      let p ← pattern p
      match value with
      | .many (t :: ts) isJoined =>
        if s.dialect == .extended then return mapped fun t => Pattern.cut p t atEnd longest
        else if quoted && !isJoined then return ofText true (Pattern.cut p t atEnd longest)
        else return ofText quoted (Pattern.cut p (s.joint.intercalate (t :: ts)) atEnd longest)
      | _ => return mapped fun t => Pattern.cut p t atEnd longest
    | .slice offset length isBounded =>
      demandSet
      let o ← arithmetic (← plain n offset)
      let l ← if isBounded then do
          let l ← plain n length
          pure (some (← arithmetic l))
        else pure none
      match value with
      | .one t => return ofText quoted (String.ofList (slice o l (t.getD "").toList))
      | .many ts isJoined =>
        let all := if name == "@" || name == "*" then s.name :: ts else ts
        return pieces (.many (slice o l all) isJoined)
    | .replace how p r =>
      demandSet
      let p ← pattern p
      let r ← plain n r
      return mapped (replace how p r)
    | .changeCase how =>
      demandSet
      return mapped (changeCase how)
    | .indirect =>
      match value with
      | .one (some t) => return pieces (← valueOf n (State.splitName t).1
          (match (State.splitName t).2 with
            | some i => [.literal i true]
            | none => []))
      | _ => return []
    | .names =>
      let names := (s.bindings.map (·.1)).filter (·.startsWith name)
      return pieces (.many (names.mergeSort fun a b => decide (a ≤ b)) false)
    | .indices =>
      let v := (s.binding? name).getD {}
      return pieces (.many ((v.elements.getD []).map (·.1)) false)
    | .quotedForm => return mapped singleQuoted
    | .bad _ => ShellM.fail "Bad substitution"

end

end

def depth : Nat := 2000

def single (run : Runner) (w : Word) : ShellM String := do
  return text (joined (← get).joint (← parts run depth {} w))

def assigned (run : Runner) (w : Word) : ShellM String := do
  return text (joined (← get).joint (← parts run depth { isAssignment := true } w))

def document (run : Runner) (w : Word) : ShellM String := do
  return text (joined (← get).joint (← parts run depth { hasTilde := false } w))

def pattern (run : Runner) (w : Word) : ShellM (List Glyph) := do
  return glyphs (joined (← get).joint (← parts run depth {} w))

inductive Atom where
  | char (c : Char)
  | part (p : Part)

def atoms (w : Word) : List Atom :=
  w.flatMap fun
    | .literal s false => s.toList.map .char
    | p => [.part p]

def ofAtoms (as : List Atom) : Word :=
  as.foldr (fun a w =>
    match a, w with
    | .char c, .literal s false :: rest => .literal (String.singleton c ++ s) false :: rest
    | .char c, w => .literal (String.singleton c) false :: w
    | .part p, w => p :: w) []

def braceContent : Nat → Nat → List Atom → List (List Atom) → List Atom →
    Option (List (List Atom) × List Atom)
  | 0, _, _, _, _ => none
  | fuel + 1, depth, current, found, as =>
    match as with
    | [] => none
    | .char '}' :: rest =>
      match depth with
      | 0 => some ((current.reverse :: found).reverse, rest)
      | depth + 1 => braceContent fuel depth (.char '}' :: current) found rest
    | .char '{' :: rest => braceContent fuel (depth + 1) (.char '{' :: current) found rest
    | .char ',' :: rest =>
      if depth = 0 then braceContent fuel 0 [] (current.reverse :: found) rest
      else braceContent fuel depth (.char ',' :: current) found rest
    | a :: rest => braceContent fuel depth (a :: current) found rest

def range? (as : List Atom) : Option (List (List Atom)) := do
  let cs ← as.mapM fun
    | .char c => some c
    | .part _ => none
  let ofString (s : String) : List Atom := s.toList.map .char
  let number? (cs : List Char) : Option Int :=
    match Arithmetic.integer? cs with
    | some (n, []) => some n
    | _ => none
  let pieces := (String.ofList cs).splitOn ".."
  let span (a b : Int) (step : Nat) : List Int :=
    let step := max step 1
    let count := (b - a).natAbs / step + 1
    (List.range count).map fun i => if a ≤ b then a + (i * step : Nat) else a - (i * step : Nat)
  match pieces with
  | [a, b] | [a, b, _] =>
    let step := match pieces with
      | [_, _, s] => ((number? s.toList).getD 1).natAbs
      | _ => 1
    match number? a.toList, number? b.toList with
    | some m, some n =>
      let isPadded (s : String) : Bool :=
        match (if s.startsWith "-" then s.toList.drop 1 else s.toList) with
        | '0' :: _ :: _ => true
        | _ => false
      let width := if isPadded a || isPadded b then max a.length b.length else 0
      let show' (k : Int) : String :=
        let digits := toString k.natAbs
        let sign := if k < 0 then "-" else ""
        sign ++ String.ofList (List.replicate (width - sign.length - digits.length) '0') ++ digits
      some ((span m n step).map fun k => ofString (show' k))
    | _, _ =>
      match a.toList, b.toList with
      | [x], [y] =>
        if x.isAlpha && y.isAlpha then
          some ((span x.toNat y.toNat step).map fun k => [.char (Char.ofNat k.toNat)])
        else none
      | _, _ => none
  | _ => none

def braced : Nat → List Atom → List (List Atom)
  | 0, as => [as]
  | _, [] => [[]]
  | fuel + 1, .char '{' :: rest =>
    let literal := (braced fuel rest).map (Atom.char '{' :: ·)
    match braceContent (rest.length + 1) 0 [] [] rest with
    | some ([one], after) =>
      match range? one with
      | some members => members.flatMap fun m => (braced fuel after).map (m ++ ·)
      | none => literal
    | some (alternatives, after) =>
      let tails := braced fuel after
      alternatives.flatMap fun a => (braced fuel a).flatMap fun a => tails.map (a ++ ·)
    | none => literal
  | fuel + 1, a :: rest => (braced fuel rest).map (a :: ·)

/-- The words that a word stands for before its parts are expanded. -/
def alternatives (dialect : Dialect) (w : Word) : List Word :=
  let hasBrace := w.any fun
    | .literal s false => s.toList.contains '{'
    | _ => false
  if dialect == .extended && hasBrace then
    let as := atoms w
    (braced (2 * as.length + 2) as).map ofAtoms
  else [w]

def globRules (s : State) : Pattern.Rules :=
  if s.dialect == .plain then {}
  else {
    hasDots := false
    takesHidden := s.has "dotglob"
    goesDeep := s.has "globstar" }

def fields (run : Runner) (ws : List Word) : ShellM (List String) := do
  let ws := ws.flatMap (alternatives (← get).dialect)
  let all ← ws.mapM fun w => do
    match w with
    | [.literal s false] =>
      if (s.toList.any fun c => c == '~' || c == '*' || c == '?' || c == '[') then general w
      else return [s]
    | _ => general w
  return all.flatten
where
  general (w : Word) : ShellM (List String) := do
    let pieces ← parts run depth {} w
    let s ← get
    let cut := Cut.run s.separators pieces
    if s.isOn 'f' then return cut.map text
    else
      let all ← cut.mapM fun field => do
        let p := glyphs field
        if Pattern.isActive p then
          let view ← ShellM.look
          match Pattern.expand? view.files view.cwd (globRules s) p with
          | some paths => return paths
          | none => return if s.has "nullglob" then [] else [Pattern.text p]
        else return [Pattern.text p]
      return all.flatten

end Remedy.Shell.Expansion
