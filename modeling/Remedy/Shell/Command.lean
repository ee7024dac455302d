namespace Remedy.Shell

/-- The two shells: the plain one, and the one with arrays and tests of its own. -/
inductive Dialect where
  | plain
  | extended
deriving DecidableEq, Repr

inductive FileMode where
  | read
  | write
  | overwrite
  | append
  | readWrite
deriving DecidableEq, Repr

inductive Replacing where
  | first
  | all
  | atStart
  | atEnd
deriving DecidableEq, Repr

inductive CaseChange where
  | upperFirst
  | upperAll
  | lowerFirst
  | lowerAll
deriving DecidableEq, Repr

mutual

/-- A part of a word. What is quoted is neither cut into fields nor read as a pattern. -/
inductive Part where
  | literal (text : String) (quoted : Bool)
  | parameter (name : String) (index : List Part) (use : Use) (quoted : Bool)
  | substitution (body : Command) (quoted : Bool)
  | arithmetic (expression : List Part) (quoted : Bool)
  | process (isInput : Bool) (body : Command)

/-- What is done with the value of a parameter. Where `orNull` is set, an empty value counts as
none. -/
inductive Use where
  | value
  | length
  | ifUnset (orNull : Bool) (word : List Part)
  | assign (orNull : Bool) (word : List Part)
  | demand (orNull : Bool) (word : List Part)
  | ifSet (orNull : Bool) (word : List Part)
  | cut (atEnd : Bool) (longest : Bool) (pattern : List Part)
  | slice (offset : List Part) (length : List Part) (isBounded : Bool)
  | replace (how : Replacing) (pattern replacement : List Part)
  | changeCase (how : CaseChange)
  | indirect
  | names
  | indices
  | quotedForm
  | bad (text : String)

/-- What a name is given; an element of an array has no name of its own. -/
inductive Assignment where
  | scalar (name : String) (index : List Part) (append : Bool) (value : List Part)
  | array (name : String) (append : Bool) (elements : List Assignment)

inductive Redirection where
  | file (fd : Nat) (mode : FileMode) (target : List Part)
  | duplicate (fd : Nat) (source : List Part)
  | document (fd : Nat) (number : Nat)
  | text (fd : Nat) (word : List Part)
  | both (append : Bool) (target : List Part)

/-- The patterns of a choice and what they lead to; `fallsThrough` goes on with the next one. -/
inductive Case where
  | mk (patterns : List (List Part)) (body : Command) (fallsThrough : Bool)

inductive Command where
  | nothing
  | simple (line : Nat) (assignments : List Assignment) (words : List (List Part))
    (redirections : List Redirection)
  | pipeline (commands : List Command)
  | not (c : Command)
  | and (a b : Command)
  | or (a b : Command)
  | sequence (a b : Command)
  | background (c : Command)
  | subshell (line : Nat) (body : Command) (redirections : List Redirection)
  | redirected (line : Nat) (body : Command) (redirections : List Redirection)
  | group (body : Command)
  | branch (test yes no : Command)
  | loop (isUntil : Bool) (test body : Command)
  /-- Goes through words, or through the positional parameters where there is no list of words. -/
  | each (line : Nat) (name : String) (hasWords : Bool) (words : List (List Part)) (body : Command)
  | choice (line : Nat) (subject : List Part) (cases : List Case)
  | function (line : Nat) (name : String) (body : Command)
  | arithmetic (line : Nat) (expression : List Part)
  | count (line : Nat) (start test next : List Part) (body : Command)
  | condition (line : Nat) (c : Command)
  | test (operator : String) (operands : List (List Part))

end

abbrev Word := List Part

instance : Inhabited Command := ⟨.nothing⟩

/-- Whether a word is the text, without quotation. -/
def isPlain (w : Word) (s : String) : Bool :=
  match w with
  | [.literal text false] => text == s
  | _ => false

def plainText? : Word → Option String
  | [.literal text false] => some text
  | _ => none

def isNameStart (c : Char) : Bool := c.isAlpha || c == '_'

def isNameChar (c : Char) : Bool := c.isAlphanum || c == '_'

def isName (s : String) : Bool :=
  match s.toList with
  | [] => false
  | c :: cs => isNameStart c && cs.all isNameChar

end Remedy.Shell
