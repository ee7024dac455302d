import Std.Data.HashMap
import Remedy.Tool.Records.Value

namespace Remedy.Tool.Records

inductive Key where
  | text (s : String)
  | integer (n : Int)
deriving DecidableEq

def Key.toText : Key → String
  | .text s => s
  | .integer n => toString n

structure Table where
  values : Std.HashMap String Value := {}
  texts : Array (List String) := #[]
  integers : Array (List Int) := #[]
  hasTexts : Bool := false
deriving Inhabited

namespace Table

def firstSlots : Nat := 64

def density : Nat := 12

def empty : Table := {}

def size (t : Table) : Nat := t.values.size

def scatter (s : String) : Nat :=
  (s.toList.foldl (fun (h : UInt32) c => (h ^^^ UInt32.ofNat c.toNat) * 16777619)
    2166136261).toNat

def slotOfText (slots : Nat) (s : String) : Nat := scatter s % slots

def slotOfInteger (slots : Nat) (n : Int) : Nat := (n % slots).toNat

def slots (t : Table) : Nat := t.integers.size

def prepared (t : Table) : Table :=
  if t.integers.isEmpty then
    { t with texts := Array.replicate firstSlots [], integers := Array.replicate firstSlots [] }
  else t

def inFront [BEq α] (a : Array (List α)) (slot : Nat) (x : α) : Array (List α) :=
  a.modify slot fun xs =>
    match xs with
    | y :: _ => if y == x then xs else x :: xs.filter (· != x)
    | [] => [x]

def withTexts (t : Table) : Table :=
  if t.hasTexts then t
  else
    let texts := t.integers.foldl (fun texts ns =>
      ns.foldl (fun (texts : Array (List String)) n =>
        let s := toString n
        texts.modify (slotOfText texts.size s) (s :: ·)) texts) t.texts
    { t with texts, hasTexts := true }

def spread (xs : Array (List α)) (slot : α → Nat) : Array (List α) :=
  Array.ofFn fun (i : Fin (2 * xs.size)) =>
    (xs.getD (i.val % xs.size) []).filter (slot · = i.val)

/-- Doubles the slots when there are too many keys. -/
def grown (t : Table) : Table :=
  let n := t.slots
  if t.size ≤ density * n then t
  else
    { t with
      texts := spread t.texts (slotOfText (2 * n))
      integers := spread t.integers (slotOfInteger (2 * n)) }

def atText (t : Table) (s : String) (creates : Bool) : Option Value × Table :=
  let t := t.prepared.withTexts
  match t.values[s]? with
  | some v => (some v, { t with texts := inFront t.texts (slotOfText t.slots s) s })
  | none =>
    if creates then
      let t := grown { t with values := t.values.insert s .unset }
      (some .unset, { t with texts := inFront t.texts (slotOfText t.slots s) s })
    else (none, t)

def atInteger (t : Table) (n : Int) (creates : Bool) : Option Value × Table :=
  let t := t.prepared
  let front (t : Table) : Table :=
    { t with integers := inFront t.integers (slotOfInteger t.slots n) n }
  if (t.integers.getD (slotOfInteger t.slots n) []).contains n then
    (t.values[toString n]?, front t)
  else if t.hasTexts then
    match t.atText (toString n) creates with
    | (none, t) => (none, t)
    | (some v, t) => (some v, front t)
  else if creates then
    (some .unset, front (grown { t with values := t.values.insert (toString n) .unset }))
  else (none, t)

def find (t : Table) (k : Key) (creates : Bool) : Option Value × Table :=
  match k with
  | .text s => t.atText s creates
  | .integer n => t.atInteger n creates

def insert (t : Table) (k : Key) (v : Value) : Table :=
  let (_, t) := t.find k true
  { t with values := t.values.insert k.toText v }

def has (t : Table) (k : Key) : Bool × Table :=
  let (v, t) := t.find k false
  (v.isSome, t)

def erase (t : Table) (k : Key) : Table :=
  let (v, t) := t.find k false
  if v.isNone then t
  else if t.size ≤ 1 then empty
  else
    let s := k.toText
    { t with
      values := t.values.erase s
      texts := t.texts.modify (slotOfText t.slots s) (·.filter (· != s))
      integers :=
        match s.toInt? with
        | some n =>
          if toString n == s then
            t.integers.modify (slotOfInteger t.slots n) (·.filter (· != n))
          else t.integers
        | none => t.integers }

def keys (t : Table) : List String × Table :=
  if t.size = 0 then ([], t)
  else
    let t := t.prepared.withTexts
    (t.texts.toList.flatten, t)

def ofValues (vs : List Value) : Table :=
  vs.zipIdx.foldl (fun t (v, i) => t.insert (.integer (i + 1)) v) empty

end Table

end Remedy.Tool.Records
