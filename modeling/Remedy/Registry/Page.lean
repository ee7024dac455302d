import Remedy.Registry.Candidate
import Remedy.Json.Reader

namespace Remedy.Registry

/-- A cap on candidates is kept from one to this number. -/
def maxCandidates : Nat := 5

def clampCap (n : Nat) : Nat := max 1 (min n maxCandidates)

theorem one_le_clampCap (n : Nat) : 1 ≤ clampCap n := Nat.le_max_left ..

theorem clampCap_le (n : Nat) : clampCap n ≤ maxCandidates :=
  Nat.max_le.2 ⟨by decide, Nat.min_le_right ..⟩

structure Page where
  totalHits : Nat := 0
  /-- The entries as they are; one that is malformed does not spoil the page. -/
  entries : List Json
deriving Repr

namespace Page

def ofJson? (j : Json) : Option Page := do
  let field ← j.fields? ["totalHits", "data"]
  return {
    totalHits := ← Json.optional 0 (Json.nat? 64) (field "totalHits")
    entries := ← Json.required (Json.list? Json.value?) (field "data") }

def candidates (page : Page) : List Candidate :=
  page.entries.filterMap Candidate.ofJson?

/-- The first usable candidates, as many as the cap allows. -/
def offered (page : Page) (cap : Nat) : List Candidate :=
  (page.candidates.filter Candidate.isUsable).take (clampCap cap)

end Page

def candidatesOfBody? (cap : Nat) (body : Json.Reader.Input) : Option (List Candidate) := do
  let page ← (← Json.Reader.text? body) |> Page.ofJson?
  return page.offered cap

end Remedy.Registry
