import Remedy.Tool.Basic

namespace Remedy.Tool.Precedence

structure Item where
  name : String
  before : Nat := 0
  behind : List Nat := []
  isPrinted : Bool := false

abbrev Items := Array Item

def itemsOf (names : List String) : Items :=
  let sorted := (names.eraseDups.mergeSort fun a b => decide (a ≤ b)).toArray
  let place (name : String) : Nat := (sorted.findIdx? (· == name)).getD 0
  let rec relate : Items → List String → Items
    | items, a :: b :: rest =>
      if a == b then relate items rest
      else
        let items := items.modify (place a) fun i => { i with behind := place b :: i.behind }
        relate (items.modify (place b) fun i => { i with before := i.before + 1 }) rest
    | items, _ => items
  relate (sorted.map fun name => { name }) names

def release (items : Items) (n : Nat) : Items :=
  items.modify n fun i => { i with before := i.before - 1 }

/-- Prints the items of a queue and those that nothing stands in front of any longer. -/
def drain : Nat → Items → List Nat → List String → Items × List String
  | 0, items, _, done | _, items, [], done => (items, done)
  | fuel + 1, items, n :: queue, done =>
    match items[n]? with
    | none => drain fuel items queue done
    | some item =>
      let items := items.modify n fun i => { i with isPrinted := true }
      let (items, freed) := item.behind.foldl (fun (items, freed) m =>
        let items := release items m
        if items[m]?.any (·.before = 0) then (items, m :: freed) else (items, freed)) (items, [])
      drain fuel items (queue ++ freed.reverse) (item.name :: done)

/-- The items that a loop is looked for with: the one found last comes first. -/
abbrev Chain := List Nat

/-- Goes once over the items in search of a loop; tells its names once it is found, and takes the
relation away that closes it. -/
def searchLoop (items : Items) (chain : Chain) : Items × Chain × Option (List String) :=
  let rec go : List Nat → Chain → Items × Chain × Option (List String)
    | [], chain => (items, chain, none)
    | n :: rest, chain =>
      match items[n]?, chain with
      | some item, [] => if item.before > 0 then go rest [n] else go rest []
      | some item, head :: _ =>
        if item.before > 0 && item.behind.contains head then
          -- the first item of the chain may come in once more
          if chain.dropLast.contains n then
            let cycle := chain.takeWhile (· ≠ n) ++ [n]
            let items := release items head
            let items := items.modify n fun i => { i with behind := i.behind.erase head }
            (items, [], some (cycle.filterMap fun m => items[m]?.map (·.name)))
          else go rest (n :: chain)
        else go rest chain
      | none, _ => go rest chain
  go (List.range items.size) chain

def breakLoop : Nat → Items → Chain → Items × List String
  | 0, items, _ => (items, [])
  | fuel + 1, items, chain =>
    match searchLoop items chain with
    | (items, _, some names) => (items, names)
    | (items, chain, none) => breakLoop fuel items chain

/-- Prints the items in turns; loops are told and broken. -/
def printAll (path : String) : Nat → Items → Tool Unit
  | 0, _ => pure ()
  | fuel + 1, items => do
    let free := (List.range items.size).filter fun n =>
      items[n]?.any fun i => i.before = 0 && !i.isPrinted
    let (items, done) := drain (items.size + 1) items free []
    done.reverse.forM putLine
    if items.any (!·.isPrinted) then
      let (items, names) := breakLoop (items.size + 2) items []
      complain (quoted path ++ ": input contains a loop:")
      names.forM complain
      note 1
      printAll path fuel items

def arrange (words : List String) : Tool Unit := do
  let g ← given [] words
  bound g 1
  let path := g.operands.headD "-"
  match ← readAll path with
  | .error e => fail 1 (quoted path ++ ": " ++
      (if e = .isDirectory then "read error: " else "") ++ e.message)
  | .ok text =>
    let names := (text.splitToList fun c => c == ' ' || c == '\t' || c == '\n').filter (· != "")
    if names.length % 2 = 1 then
      fail 1 (quoted path ++ ": input contains an odd number of tokens")
    let relations := names.length
    printAll path (relations + 1) (itemsOf names)

def catalogue : List (String × (List String → Tool Unit)) := [("tsort", arrange)]

end Remedy.Tool.Precedence
