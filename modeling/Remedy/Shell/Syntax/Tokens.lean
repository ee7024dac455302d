import Remedy.Shell.Syntax.Words

namespace Remedy.Shell.Tokens

structure Expectation where
  skipsLines : Bool := false
  keywords : Bool := false
  aliases : Bool := false

def nothing : Expectation := {}

def atCommand : Expectation := { keywords := true, aliases := true }

def atCommandBelow : Expectation := { skipsLines := true, keywords := true, aliases := true }

def keywords : List String :=
  ["!", "case", "do", "done", "elif", "else", "esac", "fi", "for", "if", "in", "then", "until",
    "while", "\x7b", "\x7d"]

def extendedKeywords : List String := keywords ++ ["[[", "function", "time"]

def skipBlanks : Nat → Parser Unit
  | 0 => pure ()
  | n + 1 => do
    match (← get).rest with
    | ' ' :: _ | '\t' :: _ =>
      Parser.skip 1
      skipBlanks n
    | '\\' :: '\n' :: _ =>
      Parser.skip 2
      Parser.newLine
      skipBlanks n
    | '#' :: _ =>
      let _ ← Parser.takeWhile (· != '\n')
      skipBlanks n
    | _ => pure ()

/-- Whether a line goes on below, so that the next one is no line of its own. -/
def isJoined (line : List Char) : Bool :=
  (line.reverse.takeWhile (· == '\\')).length % 2 == 1

def documentLines (a : Awaited) : Nat → Bool → List Char → List (List Char) × List Char
  | 0, _, cs => ([], cs)
  | n + 1, joined, cs =>
    let line := cs.takeWhile (· ≠ '\n')
    let rest := cs.drop line.length
    let shown := if a.dropsTabs && !joined then line.dropWhile (· == '\t') else line
    if !joined && String.ofList shown == a.delimiter then ([], rest.drop 1)
    else
      match rest with
      | [] => (if shown.isEmpty then [] else [shown], [])
      | _ :: rest =>
        let (lines, rest) := documentLines a n (!a.isLiteral && isJoined line) rest
        ((shown ++ ['\n']) :: lines, rest)

def readDocument (commands : Commands) (token : Parser Token) (a : Awaited) : Parser Unit := do
  let r ← get
  let (lines, rest) := documentLines a r.bound false r.rest
  let text := String.ofList lines.flatten
  let body ←
    if a.isLiteral then pure [Part.literal text true]
    else
      Words.within text r.line (Words.parts commands token (text.length + 1) .document {})
  modify fun s => { s with
    rest
    line := s.line + (r.rest.length - rest.length |> fun n => (r.rest.take n).countP (· == '\n'))
    documents := (a.number, body) :: s.documents }

def readDocuments (commands : Commands) (token : Parser Token) : Parser Unit := do
  let awaited := (← get).awaited
  modify ({ · with awaited := [] })
  awaited.forM (readDocument commands token)

def operators (extended : Bool) : List String :=
  if extended then [";;&", ";;", ";&", "&&", "||", "|&", "&", "|", ";", "(", ")"]
  else ["&&", "||", ";;", "&", "|", ";", "(", ")"]

def redirections (extended : Bool) : List String :=
  if extended then ["<<<", "<<-", "<<", "<&", "<>", ">>", ">&", ">|", "<", ">"]
  else ["<<-", "<<", "<&", "<>", ">>", ">&", ">|", "<", ">"]

def startsWith? (cs : List Char) (texts : List String) : Option String :=
  texts.find? fun s => s.toList.isPrefixOf cs

def descriptor? (extended : Bool) (w : Word) : Option Nat := do
  let s ← plainText? w
  let cs := s.toList
  guard (cs.all Char.isDigit && (cs.length == 1 || (extended && cs.length ≤ 4)))
  return Words.numeral 10 cs

def dropSubstituted : Parser Unit := modify fun r =>
  if r.substituted.isEmpty then r
  else
    let left := r.rest.length
    { r with substituted := r.substituted.filter fun s => s.after < left }

/-- Whether an alias ends right here and lets the next word be one. -/
def aliasAllowsNext : Parser Bool := do
  let r ← get
  if r.substituted.isEmpty then return false
  let left := r.rest.length
  return r.substituted.any fun s => s.allowsNext && left ≤ s.after

/-- Reads a token where it stands, as a word if it is a name of something else. -/
def plainToken (commands : Commands) (token : Parser Token) : Parser Token := do
  let r ← get
  let extended := r.dialect == .extended
  match r.rest with
  | [] => return .finish
  | '\n' :: _ =>
    Parser.skip 1
    Parser.newLine
    readDocuments commands token
    return .newline
  | _ =>
    let isProcess := extended && (startsWith? r.rest ["<(", ">("]).isSome
    let bothOutputs := if extended then startsWith? r.rest ["&>>", "&>"] else none
    match bothOutputs with
    | some o =>
      Parser.skip o.length
      return .redirection none o
    | none =>
      match startsWith? r.rest (operators extended) with
      | some o =>
        Parser.skip o.length
        return .operator o
      | none =>
        match startsWith? r.rest (redirections extended) with
        | some o =>
          if isProcess then return .word (← Words.parts commands token r.bound .bare {})
          else
            Parser.skip o.length
            return .redirection none o
        | none =>
          let w ← Words.parts commands token r.bound .bare {}
          let next ← Parser.peek
          match descriptor? extended w with
          | some fd =>
            if next == some '<' || next == some '>' then
              match startsWith? (← get).rest (redirections extended) with
              | some o =>
                Parser.skip o.length
                return .redirection (some fd) o
              | none => return .word w
            else return .word w
          | none => return .word w

/-- Puts an alias in front of what is left, unless it stands for the word already. -/
def substitute? (name : String) : Parser Bool := do
  let r ← get
  match r.aliases.lookup name with
  | none => return false
  | some value =>
    if r.substituted.any (·.name == name) then return false
    else
      let after := r.rest.length
      let cs := value.toList
      let allowsNext := match cs.getLast? with
        | some c => c == ' ' || c == '\t'
        | none => false
      set { r with
        rest := cs ++ r.rest
        bound := r.bound + cs.length
        substituted := { name, after, allowsNext } :: r.substituted }
      return true

/-- Reads tokens until one is left after passing over lines and putting in aliases. -/
def readWith (commands : Commands) (token : Parser Token) (e : Expectation) :
    Nat → Parser Token
  | 0 => return .finish
  | n + 1 => do
    let r ← get
    let mut allowed := e.aliases
    let t ← match r.pushed with
      | some t =>
        set { r with pushed := none }
        pure t
      | none =>
        skipBlanks (← get).bound
        if ← aliasAllowsNext then allowed := true
        dropSubstituted
        plainToken commands token
    match t with
    | .newline => if e.skipsLines then readWith commands token e n else return t
    | .word w =>
      match plainText? w with
      | none => return t
      | some s =>
        let reserved := if (← get).dialect == .extended then extendedKeywords else keywords
        if e.keywords && reserved.contains s then return .keyword s
        else if allowed && !(← get).aliases.isEmpty then
          if ← substitute? s then readWith commands token e n else return t
        else return t
    | _ => return t

def read (commands : Commands) : Nat → Expectation → Parser Token
  | 0, _ => return .finish
  | n + 1, e => do readWith commands (read commands n nothing) e ((← get).bound + 1)

def depth : Nat := 100000

def next (commands : Commands) (e : Expectation) : Parser Token := read commands depth e

def push (t : Token) : Parser Unit := modify ({ · with pushed := some t })

def unexpected (t : Token) (expected : Option String) : Parser α :=
  Parser.fail (t.describe ++ " unexpected" ++
    (match expected with
      | some e => " (expecting " ++ e ++ ")"
      | none => ""))

end Remedy.Shell.Tokens
