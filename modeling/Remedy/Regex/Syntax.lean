import Remedy.Regex.Basic

namespace Remedy.Regex

structure Manner where
  isExtended : Bool
  /-- Whether `\n`, `\t` and the like name characters. -/
  hasEscapes : Bool := false
  quotesInBrackets : Bool := false
  hasSpecials : Bool := true
  /-- Whether operators with nothing in front are passed over, and parentheses that close nothing
  stand for themselves. -/
  isLenient : Bool := false
  /-- Whether at least parentheses that close nothing stand for themselves. -/
  closesFreely : Bool := false

structure Reader where
  rest : List Char
  opened : Nat := 0
  closed : List Nat := []

abbrev Reading := StateT Reader (Except String)

namespace Reading

def take : Reading Unit := modify fun r => { r with rest := r.rest.drop 1 }

def drop (n : Nat) : Reading Unit := modify fun r => { r with rest := r.rest.drop n }

end Reading

def unmatchedBracket : String := "Unmatched [, [^, [:, [., or [="

def invalidBefore : String := "Invalid preceding regular expression"

/-- A name between two marks inside brackets, and what follows it. -/
def named? (mark : Char) (cs : List Char) : Option (String × List Char) :=
  let rec go : List Char → List Char → Option (String × List Char)
    | c :: ']' :: rest, found =>
      if c == mark then some (String.ofList found.reverse, rest) else go (']' :: rest) (c :: found)
    | c :: rest, found => go rest (c :: found)
    | [], _ => none
  go cs []

def member (cs : List Char) : Except String (Char × List Char) :=
  match cs with
  | '[' :: '.' :: rest | '[' :: '=' :: rest =>
    let mark := (cs.drop 1).headD '.'
    match named? mark rest with
    | some (name, rest) =>
      match name.toList with
      | [c] => .ok (c, rest)
      | _ => .error "Invalid collation character"
    | none => .error unmatchedBracket
  | c :: rest => .ok (c, rest)
  | [] => .error unmatchedBracket

def members (escapes quotes : Bool) : Nat → Bool → List (Char × Char) → List Char →
    Except String (List (Char × Char) × List Char)
  | 0, _, _, _ => .error unmatchedBracket
  | n + 1, isFirst, found, cs =>
    match cs with
    | [] => .error (if isFirst then "Invalid regular expression" else unmatchedBracket)
    | ']' :: rest =>
      if isFirst then range n found (']' :: rest) else .ok (found, rest)
    | '[' :: ':' :: rest =>
      match named? ':' rest with
      | some (name, rest) =>
        match CharSet.class? name with
        | some ranges => members escapes quotes n false (found ++ ranges) rest
        | none => .error "Invalid character class name"
      | none => .error unmatchedBracket
    | '\\' :: c :: rest =>
      let replaced : Option Char :=
        if quotes && "\\]/\"".toList.contains c then some c
        else if !escapes then none
        else match c with
          | 'n' => some '\n'
          | 't' => some '\t'
          | 'r' => some '\r'
          | 'f' => some '\x0c'
          | 'v' => some '\x0b'
          | 'a' => some '\x07'
          | _ => none
      match replaced with
      | some d => members escapes quotes n false (found ++ [(d, d)]) rest
      | none => range n found cs
    | cs => range n found cs
where
  range (n : Nat) (found : List (Char × Char)) (cs : List Char) :
      Except String (List (Char × Char) × List Char) := do
    let (low, rest) ← member cs
    match rest with
    | '-' :: ']' :: _ => members escapes quotes n false (found ++ [(low, low)]) rest
    | '-' :: rest =>
      let (high, rest) ← member rest
      if high < low then .error "Invalid range end"
      else members escapes quotes n false (found ++ [(low, high)]) rest
    | rest => members escapes quotes n false (found ++ [(low, low)]) rest

def bracket (escapes quotes : Bool) : Reading Regex := do
  let r ← get
  let (isNegated, cs) := match r.rest with
    | '^' :: rest => (true, rest)
    | rest => (false, rest)
  let (ranges, rest) ← (members escapes quotes (cs.length + 1) true [] cs : Except String _)
  modify ({ · with rest })
  return .set { ranges, isNegated }

/-- The bounds of a repetition, up to its closing brace; `none` if it is none. -/
def bounds? (isExtended : Bool) (cs : List Char) : Option (Nat × Option Nat × List Char) := do
  let number (cs : List Char) : List Char × List Char :=
    (cs.takeWhile Char.isDigit, cs.dropWhile Char.isDigit)
  let value (ds : List Char) : Nat := ds.foldl (fun n c => 10 * n + (c.toNat - 48)) 0
  let (low, rest) := number cs
  let close (rest : List Char) : Option (List Char) :=
    match isExtended, rest with
    | true, '}' :: rest => some rest
    | false, '\\' :: '}' :: rest => some rest
    | _, _ => none
  match rest with
  | ',' :: rest =>
    let (high, rest) := number rest
    let rest ← close rest
    some (value low, if high.isEmpty then none else some (value high), rest)
  | rest =>
    let rest ← close rest
    if low.isEmpty then none else some (value low, some (value low), rest)

def greatestBound : Nat := 32767

def repeated (n : Manner) : Nat → Regex → Reading Regex
  | 0, r => return r
  | fuel + 1, r => do
    match n.isExtended, (← get).rest with
    | _, '*' :: _ =>
      Reading.take
      repeated n fuel (.many r 0 none)
    | true, '+' :: _ =>
      Reading.take
      repeated n fuel (.many r 1 none)
    | true, '?' :: _ =>
      Reading.take
      repeated n fuel (.many r 0 (some 1))
    | false, '\\' :: '+' :: _ =>
      if n.hasSpecials then
        Reading.drop 2
        repeated n fuel (.many r 1 none)
      else return r
    | false, '\\' :: '?' :: _ =>
      if n.hasSpecials then
        Reading.drop 2
        repeated n fuel (.many r 0 (some 1))
      else return r
    | true, '{' :: rest =>
      match bounds? true rest with
      | some (low, high, rest) =>
        if low > greatestBound || high.any (· > greatestBound) then
          throw "Regular expression too big"
        else if high.any (· < low) then throw "Invalid content of \\\x7b\\\x7d"
        else
          modify ({ · with rest })
          repeated n fuel (.many r low high)
      | none => return r
    | false, '\\' :: '{' :: rest =>
      match bounds? false rest with
      | some (low, high, rest) =>
        if low > greatestBound || high.any (· > greatestBound) then
          throw "Regular expression too big"
        else if high.any (· < low) then throw "Invalid content of \\\x7b\\\x7d"
        else
          modify ({ · with rest })
          repeated n fuel (.many r low high)
      | none =>
        if rest.any (· == '}') then throw "Invalid content of \\\x7b\\\x7d"
        else throw "Unmatched \\\x7b"
    | _, _ => return r

/-- What a letter behind a backslash stands for, apart from groups and references. -/
def special? (n : Manner) (c : Char) : Option Regex :=
  if !n.hasSpecials then none
  else match c with
    | '<' => some (.anchor .wordStart)
    | '>' => some (.anchor .wordEnd)
    | 'b' => some (.anchor .wordEdge)
    | 'B' => some (.anchor .notWordEdge)
    | '`' => some (.anchor .textStart)
    | '\'' => some (.anchor .textEnd)
    | 'w' => some (.set { ranges := CharSet.wordRanges })
    | 'W' => some (.set { ranges := CharSet.wordRanges, isNegated := true })
    | 's' => some (.set { ranges := CharSet.blanks })
    | 'S' => some (.set { ranges := CharSet.blanks, isNegated := true })
    | _ => none

def escape? (n : Manner) (c : Char) : Option Char :=
  if !n.hasEscapes then none
  else match c with
    | 'n' => some '\n'
    | 't' => some '\t'
    | 'r' => some '\r'
    | 'f' => some '\x0c'
    | 'v' => some '\x0b'
    | 'a' => some '\x07'
    | _ => none

/-- Whether a dollar sign in front of the characters ends a line. -/
def endsHere (n : Manner) (rest : List Char) : Bool :=
  n.isExtended ||
    match rest with
    | [] | '\\' :: ')' :: _ | '\\' :: '|' :: _ => true
    | _ => false

mutual

def alternatives (n : Manner) : Nat → Nat → Reading Regex
  | 0, _ => throw "Regular expression too big"
  | fuel + 1, depth => do
    let a ← sequence n fuel depth true .empty
    match n.isExtended, (← get).rest with
    | true, '|' :: _ =>
      Reading.take
      return .alt a (← alternatives n fuel depth)
    | false, '\\' :: '|' :: _ =>
      if n.hasSpecials then
        Reading.drop 2
        return .alt a (← alternatives n fuel depth)
      else return a
    | _, _ => return a

/-- Expressions one after another; `isFirst` says that none has been read. -/
def sequence (n : Manner) : Nat → Nat → Bool → Regex → Reading Regex
  | 0, _, _, _ => throw "Regular expression too big"
  | fuel + 1, depth, isFirst, before => do
    let add (r : Regex) : Reading Regex := do
      let r ← repeated n ((← get).rest.length + 1) r
      sequence n fuel depth false (match before with
        | .empty => r
        | before => .seq before r)
    let plain (c : Char) : Reading Regex := do
      Reading.take
      add (.set (.single c))
    match (← get).rest with
    | [] => if depth > 0 then throw "Unmatched ( or \\(" else return before
    | '[' :: _ =>
      Reading.take
      add (← bracket n.hasEscapes n.quotesInBrackets)
    | '.' :: _ =>
      Reading.take
      add (.set .any)
    | '^' :: _ =>
      if n.isExtended || isFirst then
        Reading.take
        let anchored : Regex := match before with
          | .empty => .anchor .lineStart
          | before => .seq before (.anchor .lineStart)
        sequence n fuel depth (isFirst && !n.isExtended) anchored
      else plain '^'
    | '$' :: rest =>
      if endsHere n rest then
        Reading.take
        if n.isExtended then add (.anchor .lineEnd)
        else
          sequence n fuel depth false (match before with
            | .empty => .anchor .lineEnd
            | before => .seq before (.anchor .lineEnd))
      else plain '$'
    | '*' :: _ =>
      if isFirst && n.isExtended then
        if n.isLenient then
          Reading.take
          sequence n fuel depth true before
        else throw invalidBefore
      else plain '*'
    | '+' :: _ | '?' :: _ =>
      if n.isExtended && isFirst then
        if n.isLenient then
          Reading.take
          sequence n fuel depth true before
        else throw invalidBefore
      else plain ((← get).rest.headD '+')
    | '{' :: rest =>
      match n.isExtended && isFirst, bounds? true rest with
      | true, some (_, _, rest) =>
        if n.isLenient then
          modify ({ · with rest })
          sequence n fuel depth true before
        else throw invalidBefore
      | _, _ => plain '{'
    | '|' :: _ => if n.isExtended then return before else plain '|'
    | '(' :: _ =>
      if n.isExtended then
        Reading.take
        add (← grouped n fuel depth)
      else plain '('
    | ')' :: _ =>
      if n.isExtended then
        if depth > 0 then return before
        else if n.isLenient || n.closesFreely then plain ')'
        else throw "Unmatched ) or \\)"
      else plain ')'
    | '\\' :: c :: _ =>
      match n.isExtended, c with
      | false, '(' =>
        Reading.drop 2
        add (← grouped n fuel depth)
      | false, ')' => if depth > 0 then return before else throw "Unmatched ) or \\)"
      | false, '|' =>
        if n.hasSpecials then return before
        else
          Reading.drop 2
          add (.set (.single '|'))
      | false, '{' =>
        if isFirst && !n.isLenient then throw invalidBefore
        else
          Reading.drop 2
          add (.set (.single '{'))
      | _, c =>
        if n.hasSpecials && '1' ≤ c && c ≤ '9' then
          let k := c.toNat - 48
          if (← get).closed.contains k then
            Reading.drop 2
            add (.back k)
          else throw "Invalid back reference"
        else
          Reading.drop 2
          match special? n c with
          | some r => add r
          | none => add (.set (.single ((escape? n c).getD c)))
    | ['\\'] => throw "Trailing backslash"
    | c :: _ => plain c

def grouped (n : Manner) : Nat → Nat → Reading Regex
  | 0, _ => throw "Regular expression too big"
  | fuel + 1, depth => do
    let k := (← get).opened + 1
    modify ({ · with opened := k })
    let inner ← alternatives n fuel (depth + 1)
    match n.isExtended, (← get).rest with
    | true, ')' :: _ => Reading.take
    | false, '\\' :: ')' :: _ => Reading.drop 2
    | _, _ => throw "Unmatched ( or \\("
    modify fun r => { r with closed := k :: r.closed }
    return .group k inner

end

inductive Within where
  | nothing
  | bracket
  | start
  | name

/-- Whether a class stands in single brackets, which is not what was meant. -/
def bareClassFrom : Within → List Char → Bool
  | _, [] => false
  | .nothing, '\\' :: _ :: rest => bareClassFrom .nothing rest
  | .nothing, '[' :: rest =>
    let name := (rest.drop 1).takeWhile Char.isAlpha
    (rest.head? = some ':' && (rest.drop (1 + name.length)).take 2 = [':', ']']) ||
      bareClassFrom .start rest
  | .nothing, _ :: rest => bareClassFrom .nothing rest
  | .start, '^' :: rest => bareClassFrom .start rest
  | .start, ']' :: rest => bareClassFrom .bracket rest
  | .start, '[' :: ':' :: rest => bareClassFrom .name rest
  | .start, _ :: rest => bareClassFrom .bracket rest
  | .bracket, '[' :: ':' :: rest => bareClassFrom .name rest
  | .bracket, ']' :: rest => bareClassFrom .nothing rest
  | .bracket, _ :: rest => bareClassFrom .bracket rest
  | .name, ':' :: ']' :: rest => bareClassFrom .bracket rest
  | .name, _ :: rest => bareClassFrom .name rest

def hasBareClass (cs : List Char) : Bool := bareClassFrom .nothing cs

def bareClass : String := "character class syntax is [[:space:]], not [:space:]"

def read (n : Manner) (s : String) : Except String Regex :=
  let cs := s.toList
  (alternatives n (6 * cs.length + 10) 0).run' { rest := cs }

/-- An expression of the notation in which repetitions need no backslash, in the basic one. -/
def toBasic : Bool → List Char → List Char
  | _, [] => []
  | true, c :: rest => c :: toBasic (c != ']') rest
  | false, '[' :: ']' :: rest => '[' :: ']' :: toBasic true rest
  | false, '[' :: '^' :: ']' :: rest => '[' :: '^' :: ']' :: toBasic true rest
  | false, '[' :: rest => '[' :: toBasic true rest
  | false, '\\' :: c :: rest =>
    (if c == '+' || c == '?' then [c] else ['\\', c]) ++ toBasic false rest
  | false, c :: rest =>
    (if c == '+' || c == '?' then ['\\', c] else [c]) ++ toBasic false rest

end Remedy.Regex
