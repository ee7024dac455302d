import Remedy.Diagnostic.Match
import Remedy.Dialogue

namespace Remedy.Flow

open Registry (Candidate)

inductive AbortReason where
  | noUnresolvedDiagnostic
  | symbolNotExtractable
  | missingSymbol
  | unknownCommand (id : String)
  | searchFailed
  | noCandidates
  | packagePickCancelled
  | projectLookupFailed
  | noProjects
  | projectPickCancelled
  | installNotStarted
deriving DecidableEq, Repr

namespace AbortReason

def isReported : AbortReason → Bool
  | .searchFailed | .projectLookupFailed | .noProjects => true
  | _ => false

def message : AbortReason → String
  | .noUnresolvedDiagnostic => "no unresolved type diagnostic"
  | .symbolNotExtractable => "no symbol in diagnostic message"
  | .missingSymbol => "no symbol supplied"
  | .unknownCommand id => "unknown command " ++ id
  | .searchFailed => "package search failed"
  | .noCandidates => "no packages found"
  | .packagePickCancelled => "package selection cancelled"
  | .projectLookupFailed => "project lookup failed"
  | .noProjects => "no project files found"
  | .projectPickCancelled => "project selection cancelled"
  | .installNotStarted => "install task did not start"

end AbortReason

inductive Outcome where
  | installed (command : InstallCommand)
  | aborted (reason : AbortReason)
deriving DecidableEq, Repr

inductive State where
  | matchingDiagnostic (diagnostics : List Diagnostic)
  | searching (query : String)
  | awaitingPackagePick (candidates : List Candidate)
  | locatingProjects (packageId : String)
  | awaitingProjectPick (packageId : String) (projects : List ManifestPath)
  | installing (packageId : String) (project : ManifestPath)
  | ended (outcome : Outcome)
deriving DecidableEq, Repr

namespace State

abbrev done (command : InstallCommand) : State := .ended (.installed command)

abbrev aborted (reason : AbortReason) : State := .ended (.aborted reason)

def name : State → String
  | .matchingDiagnostic _ => "matching_diagnostic"
  | .searching _ => "searching"
  | .awaitingPackagePick _ => "awaiting_package_pick"
  | .locatingProjects _ => "locating_projects"
  | .awaitingProjectPick .. => "awaiting_project_pick"
  | .installing .. => "installing"
  | .ended (.installed _) => "done"
  | .ended (.aborted _) => "aborted"

/-- The place of a state's stage in the order of the stages. -/
def rank : State → Nat
  | .matchingDiagnostic _ => 0
  | .searching _ => 1
  | .awaitingPackagePick _ => 2
  | .locatingProjects _ => 3
  | .awaitingProjectPick .. => 4
  | .installing .. => 5
  | .ended _ => 6

def isTerminal : State → Bool
  | .ended _ => true
  | _ => false

end State

end Remedy.Flow
