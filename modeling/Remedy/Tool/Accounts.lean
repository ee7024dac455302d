import Remedy.Tool.Basic

namespace Remedy.Tool.Accounts

open Unix Files

def rows (v : View) (path : String) : List (List String) :=
  match v.content path with
  | .ok text => (linesOf text).1.map (·.splitOn ":")
  | .error _ => []

def users (v : View) : List (List String) := rows v "/etc/passwd"

def groups (v : View) : List (List String) := rows v "/etc/group"

def numberIn? (table : List (List String)) (name : String) : Option Nat :=
  (table.find? (·.headD "" == name)).bind fun row => natural? (row.getD 2 "")

def nameIn? (table : List (List String)) (n : Nat) : Option String :=
  (table.find? (·.getD 2 "" == toString n)).map (·.headD "")

def userNumber? (v : View) (name : String) : Option Nat := numberIn? (users v) name

def groupNumber? (v : View) (name : String) : Option Nat := numberIn? (groups v) name

def userName? (v : View) (n : Nat) : Option String := nameIn? (users v) n

def groupName? (v : View) (n : Nat) : Option String := nameIn? (groups v) n

def userText (v : View) (n : Nat) : String := (userName? v n).getD (toString n)

def groupText (v : View) (n : Nat) : String := (groupName? v n).getD (toString n)

def loginGroup? (v : View) (user : String) : Option Nat :=
  ((users v).find? (·.headD "" == user)).bind fun row => natural? (row.getD 3 "")

/-- A number where no account has the name; a plus sign in front says that none is meant. -/
def numeric? (text : String) : Option Nat :=
  let cs := text.toList
  (natural? (String.ofList (if cs.head? == some '+' then cs.drop 1 else cs))).filter
    (· < twoTo 32 - 1)

def user? (v : View) (text : String) : Option Nat :=
  (userNumber? v text).orElse fun _ => numeric? text

def group? (v : View) (text : String) : Option Nat :=
  (groupNumber? v text).orElse fun _ => numeric? text

structure Owners where
  user : Option Nat := none
  group : Option Nat := none
  userText : Option String := none
  groupText : Option String := none

/-- Reads a user and a group with a separator between them; an error tells what is wrong. -/
def readAt (v : View) (text : String) (separator : Char) : Except String Owners := do
  let cs := text.toList
  let name := String.ofList (cs.takeWhile (· ≠ separator))
  let hasSeparator := cs.contains separator
  let rest := String.ofList (cs.drop (name.length + 1))
  let group? (o : Owners) : Except String Owners :=
    if rest == "" then .ok o
    else
      match Accounts.group? v rest with
      | some n => .ok { o with group := some n, groupText := some rest }
      | none => .error "invalid group"
  if name == "" then group? {}
  else
    match userNumber? v name with
    | some n =>
      let o : Owners := { user := some n, userText := some name }
      if hasSeparator && rest == "" then
        let login := loginGroup? v name
        .ok { o with group := login, groupText := login.map (Accounts.groupText v) }
      else group? o
    | none =>
      if hasSeparator && rest == "" then .error "invalid spec"
      else
        match numeric? name with
        | some n => group? { user := some n, userText := some name }
        | none => .error "invalid user"

/-- Reads owners; `true` beside them warns that a point stood for the colon. -/
def read (v : View) (text : String) : Except String (Owners × Bool) :=
  match readAt v text ':' with
  | .ok o => .ok (o, false)
  | .error e =>
    if !text.toList.contains ':' && text.toList.contains '.' then
      match readAt v text '.' with
      | .ok o => .ok (o, true)
      | .error _ => .error e
    else .error e

end Remedy.Tool.Accounts
