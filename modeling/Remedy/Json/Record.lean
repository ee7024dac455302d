import Remedy.Json.Basic

namespace Remedy.Json

/-- The fields of a record by name, `none` where one is absent. An object may have other members
besides, but none of the fields twice; an array may end early, but not go on after the last
field. -/
def fields? (names : List String) : Json → Option (String → Option Json)
  | .object members =>
    if names.all fun name => (members.filter (·.1 == name)).length ≤ 1 then
      some (member? members)
    else none
  | .array items =>
    if items.length ≤ names.length then some fun name => items[names.idxOf name]? else none
  | _ => none

def required (read? : Json → Option α) (field : Option Json) : Option α := field.bind read?

def optional (absent : α) (read? : Json → Option α) : Option Json → Option α
  | none => some absent
  | some j => read? j

def nullAs (absent : α) (read? : Json → Option α) : Option Json → Option α
  | none | some .null => some absent
  | some j => read? j

def ofOption (encode : α → Json) : Option α → Json
  | none => .null
  | some a => encode a

end Remedy.Json
