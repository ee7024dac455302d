import Remedy.Json.Record
import Remedy.Text.Blank

namespace Remedy.Diagnostic

inductive Code where
  | unresolved
  | other (text : String)
  | absent
deriving DecidableEq, Repr, Inhabited

namespace Code

def unresolvedText : String := "CS0246"

/-- The code that a text names; it has to match exactly, and a blank text names none. -/
def parse (text : String) : Code :=
  if Text.allBlank text then .absent
  else if text = unresolvedText then .unresolved
  else .other text

def text? : Code → Option String
  | .unresolved => some unresolvedText
  | .other text => some text
  | .absent => none

mutual

/-- The code in a value: a text or a number, or an object that holds the code as its `value`. -/
def ofJson : Json → Code
  | .string text => parse text
  | .number n => .other n.text
  | .object members => ofMembers members .absent
  | _ => .absent

/-- The code in the last member named `value`, or else the one found so far. -/
def ofMembers : List (String × Json) → Code → Code
  | [], found => found
  | (name, v) :: rest, found => ofMembers rest (if name = "value" then ofJson v else found)

end

/-- Reads a code; any readable value has one. -/
def ofJson? (j : Json) : Option Code := j.value?.map ofJson

def toJson (code : Code) : Json := Json.ofOption .string code.text?

end Code

end Remedy.Diagnostic
