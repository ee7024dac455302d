import Remedy.Json.Number

namespace Remedy

/-- A JSON value. The members of an object stand in the order of the text, and a name may occur
more than once. -/
inductive Json where
  | null
  | bool (b : Bool)
  | number (n : Json.Number)
  | string (s : String)
  | array (items : List Json)
  | object (members : List (String × Json))
  /-- Well-formed but without a value: a string whose escapes or octets spell no text, an object
  with such a name, a number beyond the range, or a level that lies too deep. -/
  | unreadable
deriving Repr, Inhabited

namespace Json

def ofString (s : String) : Json := .string s

def ofNat (n : Nat) : Json := .number (.integer n)

/-- The value of the last member with a name. -/
def member? (members : List (String × Json)) (name : String) : Option Json :=
  (members.reverse.find? (·.1 == name)).map (·.2)

mutual

/-- Whether no part of a value is unreadable. -/
def isReadable : Json → Bool
  | .array items => areReadable items
  | .object members => membersReadable members
  | .unreadable => false
  | _ => true

def areReadable : List Json → Bool
  | [] => true
  | x :: xs => x.isReadable && areReadable xs

def membersReadable : List (String × Json) → Bool
  | [] => true
  | (_, v) :: rest => v.isReadable && membersReadable rest

end

mutual

def distinct : Json → Json
  | .array items => .array (distinctItems items)
  | .object members => .object (distinctMembers members)
  | other => other

def distinctItems : List Json → List Json
  | [] => []
  | x :: xs => x.distinct :: distinctItems xs

def distinctMembers : List (String × Json) → List (String × Json)
  | [] => []
  | (name, v) :: rest =>
    if rest.any (·.1 == name) then distinctMembers rest
    else (name, v.distinct) :: distinctMembers rest

end

/-- A value kept as it is: all of it has to be readable, and its names are distinct. -/
def value? (j : Json) : Option Json :=
  if j.isReadable then some j.distinct else none

def string? : Json → Option String
  | .string s => some s
  | _ => none

def bool? : Json → Option Bool
  | .bool b => some b
  | _ => none

def nat? (bits : Nat) : Json → Option Nat
  | .number n => n.nat? bits
  | _ => none

def list? (item? : Json → Option α) : Json → Option (List α)
  | .array items => items.mapM item?
  | _ => none

def nullable? (value? : Json → Option α) : Json → Option (Option α)
  | .null => some none
  | j => (value? j).map some

end Json

end Remedy
