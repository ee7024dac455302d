import Remedy.Diagnostic.Basic

namespace Remedy.Diagnostic

def isUnresolved (d : Diagnostic) : Bool := d.code == .unresolved

/-- The text after the first quote, up to the next one or the end; `none` if it is empty. -/
def quoted? (message : List Char) : Option (List Char) :=
  match message.dropWhile (· ≠ '\'') with
  | [] => none
  | _ :: rest =>
    match rest.takeWhile (· ≠ '\'') with
    | [] => none
    | symbol => some symbol

def extractSymbol? (message : String) : Option String :=
  (quoted? message.toList).map String.ofList

/-- The symbol to look for, and where its diagnostic stands. -/
structure Remediable where
  symbol : String
  index : Nat
  range : Range
deriving DecidableEq, Repr

/-- The first unresolved diagnostic and its index. -/
def firstUnresolved? (ds : List Diagnostic) : Option (Nat × Diagnostic) :=
  (ds.zipIdx.find? (·.1.isUnresolved)).map fun (d, i) => (i, d)

/-- Only the first unresolved diagnostic counts, even if its message quotes no symbol. -/
def match? (ds : List Diagnostic) : Option Remediable := do
  let (index, d) ← firstUnresolved? ds
  let symbol ← extractSymbol? d.message
  return ⟨symbol, index, d.range⟩

end Remedy.Diagnostic
