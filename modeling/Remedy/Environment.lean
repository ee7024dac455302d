import Remedy.Power

namespace Remedy

/-- The variables by their use; `none` where one is not set. -/
structure Environment where
  searchUrl : Option String := none
  maxResults : Option String := none
  tool : Option String := none
  manifestExtension : Option String := none
deriving DecidableEq, Repr

namespace Environment

def searchUrlName : String := "NUGET_SEARCH_URL"
def maxResultsName : String := "NUGET_SEARCH_MAX_RESULTS"
def toolName : String := "NUGET_QUICKFIX_TOOL"
def manifestExtensionName : String := "NUGET_QUICKFIX_MANIFEST_EXT"

def names : List String := [searchUrlName, maxResultsName, toolName, manifestExtensionName]

def ofLookup (get? : String → Option String) : Environment where
  searchUrl := get? searchUrlName
  maxResults := get? maxResultsName
  tool := get? toolName
  manifestExtension := get? manifestExtensionName

def decimalValue (digits : List Char) : Nat :=
  digits.foldl (fun n c => 10 * n + (c.toNat - 48)) 0

/-- A natural number below `2 ^ 64` in ASCII digits, with at most one plus sign before them. -/
def word64? (s : String) : Option Nat :=
  let digits :=
    match s.toList with
    | '+' :: rest => rest
    | cs => cs
  if digits ≠ [] ∧ digits.all Char.isDigit ∧ decimalValue digits < twoTo 64 then
    some (decimalValue digits)
  else none

end Environment

end Remedy
