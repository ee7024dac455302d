import Remedy.Regex.Ordered.Basic

namespace Remedy.Ordered

structure Flags where
  ignoresCase : Bool := false
  dotIsAll : Bool := false
  hasLines : Bool := false
  isSpaced : Bool := false

structure Reader where
  rest : List Char
  count : Nat := 0
  names : List (String × Nat) := []
  flags : Flags := {}
  greatest : Nat := 0

abbrev Reading := StateT Reader (Except String)

def drop (n : Nat) : Reading Unit := modify fun r => { r with rest := r.rest.drop n }

def rest : Reading (List Char) := return (← get).rest

def others (ranges : List (Char × Char)) : List (Char × Char) :=
  (List.range 256).filterMap fun n =>
    let c := Char.ofNat n
    if ({ ranges } : CharSet).has c then none else some (c, c)

def class? (c : Char) : Option (List (Char × Char)) :=
  let across : List (Char × Char) := [('\t', '\t'), (' ', ' '), ('\xa0', '\xa0')]
  let down : List (Char × Char) := [('\n', '\r'), ('\x85', '\x85')]
  match c with
  | 'd' => some CharSet.digits
  | 'D' => some (others CharSet.digits)
  | 'w' => some CharSet.wordRanges
  | 'W' => some (others CharSet.wordRanges)
  | 's' => some CharSet.blanks
  | 'S' => some (others CharSet.blanks)
  | 'h' => some across
  | 'H' => some (others across)
  | 'v' => some down
  | 'V' => some (others down)
  | 'N' => some (others [('\n', '\n')])
  | _ => none

def property? (name : String) : Option (List (Char × Char)) :=
  match name with
  | "L" | "L&" => some (CharSet.upper ++ CharSet.lower)
  | "Lu" => some CharSet.upper
  | "Ll" => some CharSet.lower
  | "N" | "Nd" => some CharSet.digits
  | "P" => CharSet.class? "punct"
  | "Z" | "Zs" => some [(' ', ' ')]
  | "Any" => some [('\x00', '\xff')]
  | "Xan" => some (CharSet.digits ++ CharSet.upper ++ CharSet.lower)
  | "Xwd" => some CharSet.wordRanges
  | "Xsp" | "Xps" => some CharSet.blanks
  | _ => none

def numeral (base : Nat) (most : Nat) : Reading (Option Nat) := do
  let value (c : Char) : Nat :=
    if c.isDigit then c.toNat - 48
    else if c.toLower.isAlpha then c.toLower.toNat - 87 else 99
  let digits := ((← rest).take most).takeWhile fun c => value c < base
  drop digits.length
  return if digits.isEmpty then none else some (digits.foldl (fun n c => base * n + value c) 0)

def between (close : Char) : Reading (Option String) := do
  let cs := (← rest).drop 1
  let inner := cs.takeWhile (· ≠ close)
  if inner.length = cs.length then return none
  else
    drop (inner.length + 2)
    return some (String.ofList inner)

/-- The character that a backslash and a letter stand for, the letter being read already. -/
def character? (c : Char) : Reading (Option Char) := do
  let ofNumber (n : Nat) : Reading (Option Char) := do
    if n > 255 then throw "character code point value in \\x\x7b\x7d or \\o\x7b\x7d is too large"
    else return some (Char.ofNat n)
  match c with
  | 'a' => return some '\x07'
  | 'e' => return some '\x1b'
  | 'f' => return some '\x0c'
  | 'n' => return some '\n'
  | 'r' => return some '\r'
  | 't' => return some '\t'
  | '0' => ofNumber ((← numeral 8 2).getD 0)
  | 'c' =>
    match ← rest with
    | d :: _ =>
      drop 1
      ofNumber (Nat.xor d.toUpper.toNat 64)
    | [] => throw "\\c at end of pattern"
  | 'o' =>
    match ← between '\x7d' with
    | some digits => ofNumber (digits.toList.foldl (fun n c => 8 * n + (c.toNat - 48)) 0)
    | none => throw "missing opening brace after \\o"
  | 'x' =>
    match ← rest with
    | '\x7b' :: _ =>
      drop 1
      let n ← numeral 16 8
      match ← rest with
      | '\x7d' :: _ =>
        drop 1
        ofNumber (n.getD 0)
      | _ => throw "non-hex character in \\x\x7b\x7d (closing brace missing?)"
    | _ => ofNumber ((← numeral 16 2).getD 0)
  | c =>
    if c.isAlphanum then return none else return some c

def property (isNegated : Bool) : Reading (List (Char × Char)) := do
  let name ← match ← rest with
    | '\x7b' :: _ => between '\x7d'
    | c :: _ =>
      drop 1
      pure (some (String.singleton c))
    | [] => pure none
  match name with
  | none => throw "malformed \\P or \\p sequence"
  | some name =>
    let (name, isNegated) := if name.startsWith "^" then
        ((name.drop 1).toString, !isNegated) else (name, isNegated)
    match property? name with
    | some ranges => return if isNegated then others ranges else ranges
    | none => throw "unknown property after \\P or \\p"

def member : Reading (Char ⊕ List (Char × Char)) := do
  match ← rest with
  | '[' :: ':' :: cs =>
    let name := cs.takeWhile fun c => c.isAlpha || c == '^'
    match cs.drop name.length with
    | ':' :: ']' :: _ =>
      drop (name.length + 4)
      let (name, isNegated) := match name with
        | '^' :: name => (name, true)
        | _ => (name, false)
      let ranges? := if name == "word".toList then some CharSet.wordRanges
        else CharSet.class? (String.ofList name)
      match ranges? with
      | some ranges => return .inr (if isNegated then others ranges else ranges)
      | none => throw "unknown POSIX class name"
    | _ =>
      drop 1
      return .inl '['
  | '\\' :: c :: _ =>
    drop 2
    if c == 'p' || c == 'P' then return .inr (← property (c == 'P'))
    match class? c with
    | some ranges => return .inr ranges
    | none =>
      if c == 'b' then return .inl '\x08'
      else if c.isDigit then
        modify fun r => { r with rest := c :: r.rest }
        match ← numeral 8 3 with
        | some n => return .inl (Char.ofNat (n % 256))
        | none => throw "unrecognized character follows \\"
      else
        match ← character? c with
        | some d => return .inl d
        | none => throw "unrecognized character follows \\"
  | ['\\'] => throw "\\ at end of pattern"
  | c :: _ =>
    drop 1
    return .inl c
  | [] => throw "missing terminating ] for character class"

def rangeFrom (low : Char) : Reading (Char × Char) := do
  match ← rest with
  | '-' :: c :: _ =>
    if c == ']' then return (low, low)
    else
      drop 1
      match ← member with
      | .inl high =>
        if high < low then throw "range out of order in character class"
        else return (low, high)
      | .inr _ => throw "invalid range in character class"
  | _ => return (low, low)

def members : Nat → Bool → List (Char × Char) → Reading (List (Char × Char))
  | 0, _, ranges => return ranges
  | fuel + 1, isFirst, ranges => do
    match ← rest with
    | ']' :: _ =>
      drop 1
      if isFirst then members fuel false (ranges ++ [← rangeFrom ']']) else return ranges
    | _ =>
      match ← member with
      | .inl c => members fuel false (ranges ++ [← rangeFrom c])
      | .inr more => members fuel false (ranges ++ more)

def setOf (ranges : List (Char × Char)) (isNegated : Bool) : Reading Ordered := do
  let s : CharSet := { ranges, isNegated }
  return .set (if (← get).flags.ignoresCase then s.ignoringCase else s)

def bracket : Reading Ordered := do
  let isNegated := (← rest).head? == some '^'
  if isNegated then drop 1
  let ranges ← members ((← rest).length + 1) true []
  setOf ranges isNegated

/-- Bounds in braces; `none` if the braces stand for themselves. -/
def bounds? (cs : List Char) : Option (Nat × Option Nat × List Char) :=
  let number (cs : List Char) : Nat × List Char :=
    let digits := cs.takeWhile Char.isDigit
    (digits.foldl (fun n c => 10 * n + (c.toNat - 48)) 0, cs.drop digits.length)
  if !cs.head?.any Char.isDigit then none
  else
    match number cs with
    | (n, '\x7d' :: rest) => some (n, some n, rest)
    | (n, ',' :: '\x7d' :: rest) => some (n, none, rest)
    | (n, ',' :: rest) =>
      if !rest.head?.any Char.isDigit then none
      else
        match number rest with
        | (m, '\x7d' :: rest) => some (n, some m, rest)
        | _ => none
    | _ => none

def repeated (r : Ordered) : Reading Ordered := do
  let found : Option (Nat × Option Nat × List Char) := match ← rest with
    | '*' :: cs => some (0, none, cs)
    | '+' :: cs => some (1, none, cs)
    | '?' :: cs => some (0, some 1, cs)
    | '\x7b' :: cs => bounds? cs
    | _ => none
  match found with
  | none => return r
  | some (least, most, cs) =>
    if least > 65535 || most.any (· > 65535) then throw "number too big in \x7b\x7d quantifier"
    if most.any (· < least) then throw "numbers out of order in \x7b\x7d quantifier"
    modify fun s => { s with rest := cs }
    match cs with
    | '?' :: _ =>
      drop 1
      return .many r least most .least
    | '+' :: _ =>
      drop 1
      return .atomic (.many r least most .most)
    | _ => return .many r least most .most

def startsRepetition : List Char → Bool
  | '*' :: _ | '+' :: _ | '?' :: _ => true
  | '\x7b' :: cs => (bounds? cs).isSome
  | _ => false

def name (close : Char) : Reading String := do
  let cs ← rest
  let inner := cs.takeWhile fun c => c.isAlphanum || c == '_'
  if inner.isEmpty then throw "subpattern name expected"
  if (inner.head?.getD 'a').isDigit then throw "subpattern name must start with a non-digit"
  match cs.drop inner.length with
  | c :: _ =>
    if c != close then throw "syntax error in subpattern name (missing terminator?)"
    drop (inner.length + 1)
    return String.ofList inner
  | [] => throw "syntax error in subpattern name (missing terminator?)"

def reference (word : String) : Reading Ordered := do
  let s ← get
  let n ← match word.toInt? with
    | some n =>
      if word.startsWith "-" then
        if (-n).toNat > s.count then throw "reference to non-existent subpattern"
        pure (s.count + 1 - (-n).toNat)
      else pure n.toNat
    | none =>
      match s.names.lookup word with
      | some n => pure n
      | none => throw "reference to non-existent subpattern"
  modify fun s => { s with greatest := max s.greatest n }
  return .back n s.flags.ignoresCase

def behindAll (isThere : Bool) (r : Ordered) : Reading Ordered := do
  let found ← r.branches.mapM fun branch =>
    match branch.width? with
    | some n => pure (Ordered.behind isThere n branch)
    | none => throw "lookbehind assertion is not fixed length"
  match found with
  | [] => return .empty
  | first :: more =>
    return more.foldl (fun a b => if isThere then .alt a b else .seq a b) first

/-- Flags as letters, those behind a dash taken back; with how many letters they are. -/
def flags? (f : Flags) (cs : List Char) : Option (Flags × Nat) :=
  let letters := cs.takeWhile fun c => c.isAlpha || c == '-' || c == '^'
  let (f, _, isRight) := letters.foldl (fun (f, on, isRight) c =>
    match c with
    | '-' => (f, false, isRight)
    | '^' => ({}, on, isRight)
    | 'i' => ({ f with ignoresCase := on }, on, isRight)
    | 's' => ({ f with dotIsAll := on }, on, isRight)
    | 'x' => ({ f with isSpaced := on }, on, isRight)
    | 'm' => ({ f with hasLines := on }, on, isRight)
    | 'n' | 'J' | 'U' => (f, on, isRight)
    | _ => (f, on, false)) (f, true, true)
  if isRight then some (f, letters.length) else none

def escaped (c : Char) : Reading Ordered := do
  match c with
  | 'b' => return .anchor .wordEdge
  | 'B' => return .anchor .notWordEdge
  | 'A' | 'G' => return .anchor .textStart
  | 'z' | 'Z' => return .anchor .textEnd
  | 'K' => return .keep
  | 'R' =>
    return .atomic (.alt (literal "\r\n") (.set { ranges := [('\n', '\r'), ('\x85', '\x85')] }))
  | 'X' | 'C' => return .set .any
  | 'p' | 'P' => setOf (← property (c == 'P')) false
  | 'g' =>
    match ← rest with
    | '\x7b' :: _ =>
      match ← between '\x7d' with
      | some word => reference word
      | none => throw "a numbered reference must not be zero"
    | '<' :: _ | '\'' :: _ =>
      match ← between (if (← rest).head? == some '<' then '>' else '\'') with
      | some word =>
        match ← reference word with
        | .back n _ => return .call n
        | r => return r
      | none => throw "\\g is not followed by a braced, angle-bracketed, or quoted name/number"
    | cs =>
      let word := cs.takeWhile fun c => c.isDigit || c == '-'
      if word.isEmpty then
        throw "\\g is not followed by a braced, angle-bracketed, or quoted name/number"
      drop word.length
      reference (String.ofList word)
  | 'k' =>
    let close := match ← rest with
      | '<' :: _ => some '>'
      | '\'' :: _ => some '\''
      | '\x7b' :: _ => some '\x7d'
      | _ => none
    match close with
    | none => throw "\\k is not followed by a braced, angle-bracketed, or quoted name"
    | some close =>
      match ← between close with
      | some word => reference word
      | none => throw "syntax error in subpattern name (missing terminator?)"
  | c =>
    match class? c with
    | some ranges => setOf ranges false
    | none =>
      if c.isDigit && c != '0' then
        let digits := c :: (← rest).takeWhile Char.isDigit
        let n := digits.foldl (fun n c => 10 * n + (c.toNat - 48)) 0
        if n < 10 || n ≤ (← get).count then
          drop (digits.length - 1)
          return ← reference (toString n)
        else
          modify fun r => { r with rest := c :: r.rest }
          match ← numeral 8 3 with
          | some n => return ← setOf [(Char.ofNat (n % 256), Char.ofNat (n % 256))] false
          | none => throw "reference to non-existent subpattern"
      match ← character? c with
      | some d => setOf [(d, d)] false
      | none => throw "unrecognized character follows \\"

def quotedText : List Char → List Char
  | '\\' :: 'E' :: _ | [] => []
  | c :: cs => c :: quotedText cs

inductive Opening where
  | numbered (name : Option String)
  | plain
  | atomic
  | ahead (isThere : Bool)
  | behind (isThere : Bool)
  | call (n : Nat)
  | comment
  | flags (f : Flags)
  | change (f : Flags)

def opening : Reading Opening := do
  let s ← get
  match s.rest with
  | '*' :: cs =>
    let verb := String.ofList (cs.takeWhile (· ≠ ')'))
    if verb == "FAIL" || verb == "F" then
      drop (verb.length + 2)
      return .call 1000000
    else throw "(*VERB) not recognized or malformed"
  | '?' :: cs =>
    drop 2
    match cs with
    | ':' :: _ => return .plain
    | '|' :: _ => return .plain
    | '>' :: _ => return .atomic
    | '=' :: _ => return .ahead true
    | '!' :: _ => return .ahead false
    | '<' :: '=' :: _ =>
      drop 1
      return .behind true
    | '<' :: '!' :: _ =>
      drop 1
      return .behind false
    | '<' :: _ => return .numbered (some (← name '>'))
    | '\'' :: _ => return .numbered (some (← name '\''))
    | 'P' :: '<' :: _ =>
      drop 1
      return .numbered (some (← name '>'))
    | '#' :: cs =>
      let body := cs.takeWhile (· ≠ ')')
      if body.length = cs.length then throw "missing ) after (?# comment"
      drop (body.length + 1)
      return .comment
    | 'R' :: ')' :: _ =>
      drop 1
      return .call 0
    | c :: _ =>
      if c.isDigit then
        modify fun r => { r with rest := c :: r.rest }
        let n := (← numeral 10 9).getD 0
        if (← rest).head? != some ')' then
          throw "(?R (recursive pattern call) must be followed by a closing parenthesis"
        drop 1
        modify fun r => { r with greatest := max r.greatest n }
        return .call n
      else
        match flags? s.flags cs with
        | none => throw "unrecognized character after (? or (?-"
        | some (f, n) =>
          modify fun r => { r with rest := cs.drop n }
          match ← rest with
          | ')' :: _ =>
            drop 1
            return .change f
          | ':' :: _ =>
            drop 1
            return .flags f
          | [] => throw "missing closing parenthesis"
          | _ => throw "unrecognized character after (? or (?-"
    | [] => throw "missing closing parenthesis"
  | _ => return .numbered none

mutual

def choices : Nat → Reading Ordered
  | 0 => throw "regular expression is too large"
  | fuel + 1 => do
    let a ← sequence fuel
    match ← rest with
    | '|' :: _ =>
      drop 1
      return .alt a (← choices fuel)
    | _ => return a

def sequence : Nat → Reading Ordered
  | 0 => throw "regular expression is too large"
  | fuel + 1 => do
    let s ← get
    match s.rest with
    | [] | '|' :: _ | ')' :: _ => return .empty
    | '\\' :: 'E' :: _ =>
      drop 2
      sequence fuel
    | '\\' :: 'Q' :: cs =>
      let text := quotedText cs
      drop (text.length + 4)
      let parts ← text.mapM fun c => setOf [(c, c)] false
      match parts.reverse with
      | [] => sequence fuel
      | last :: front =>
        let last ← repeated last
        return front.foldl (fun r a => .seq a r) (.seq last (← sequence fuel))
    | c :: cs =>
      if s.flags.isSpaced && c.isWhitespace then
        drop 1
        sequence fuel
      else if s.flags.isSpaced && c == '#' then
        drop ((cs.takeWhile (· ≠ '\n')).length + 1)
        sequence fuel
      else if startsRepetition s.rest then throw "quantifier does not follow a repeatable item"
      else
        drop 1
        match c with
        | '(' =>
          match ← grouped fuel with
          | some r =>
            let r ← repeated r
            return .seq r (← sequence fuel)
          | none => sequence fuel
        | '^' =>
          let a : Anchor := if s.flags.hasLines then .lineStart else .textStart
          return .seq (.anchor a) (← sequence fuel)
        | '$' =>
          let a : Anchor := if s.flags.hasLines then .lineEnd else .textEnd
          return .seq (.anchor a) (← sequence fuel)
        | '.' =>
          let r ← repeated (.set (if s.flags.dotIsAll then .any
            else { ranges := [('\n', '\n')], isNegated := true }))
          return .seq r (← sequence fuel)
        | '[' =>
          let r ← repeated (← bracket)
          return .seq r (← sequence fuel)
        | '\\' =>
          match cs with
          | [] => throw "\\ at end of pattern"
          | d :: _ =>
            drop 1
            match ← escaped d with
            | .anchor a => return .seq (.anchor a) (← sequence fuel)
            | .keep => return .seq .keep (← sequence fuel)
            | r =>
              let r ← repeated r
              return .seq r (← sequence fuel)
        | c =>
          let r ← repeated (← setOf [(c, c)] false)
          return .seq r (← sequence fuel)

/-- A group, its parenthesis being read; `none` where it stands for nothing. -/
def grouped : Nat → Reading (Option Ordered)
  | 0 => throw "regular expression is too large"
  | fuel + 1 => do
    let around := (← get).flags
    let inner (f : Flags) : Reading Ordered := do
      modify fun s => { s with flags := f }
      let r ← choices fuel
      match ← rest with
      | ')' :: _ =>
        drop 1
        modify fun s => { s with flags := around }
        return r
      | _ => throw "missing closing parenthesis"
    match ← opening with
    | .comment => return none
    | .change f =>
      modify fun s => { s with flags := f }
      return none
    | .plain => return some (← inner around)
    | .flags f => return some (← inner f)
    | .atomic => return some (.atomic (← inner around))
    | .ahead isThere => return some (.ahead isThere (← inner around))
    | .behind isThere =>
      let r ← inner around
      return some (← behindAll isThere r)
    | .call n => return some (.call n)
    | .numbered name? =>
      let n := (← get).count + 1
      let names := (← get).names
      match name? with
      | some name =>
        if (names.lookup name).isSome then
          throw "two named subpatterns have the same name (PCRE2_DUPNAMES not set)"
        modify fun s => { s with names := (name, n) :: s.names }
      | none => pure ()
      modify fun s => { s with count := n }
      return some (.group n (← inner around))

end

def read (flags : Flags) (s : String) : Except String Ordered := do
  let cs := s.toList
  let (r, s) ← (choices (4 * cs.length + 8)).run { rest := cs, flags }
  if !s.rest.isEmpty then throw "unmatched closing parenthesis"
  if s.greatest > s.count then throw "reference to non-existent subpattern"
  return r

end Remedy.Ordered
