import Remedy.Flow.State

namespace Remedy.Flow

open Registry (Candidate SearchError)

def packagePlaceholder : String := "Select a package to install"

def projectPlaceholder : String := "Select a project to install the package into"

def searchFailedText (error : SearchError) : String :=
  "Failed to search for packages: " ++ error.message

def lookupFailedText (failure : Failure) : String :=
  "Failed to find project files: " ++ failure.message

def noProjectsText : String := "No project files found"

/-- The symbol of the first unresolved diagnostic. -/
def matchSymbol (ds : List Diagnostic) : Except AbortReason String :=
  match Diagnostic.firstUnresolved? ds with
  | none => .error .noUnresolvedDiagnostic
  | some (_, d) =>
    match Diagnostic.extractSymbol? d.message with
    | none => .error .symbolNotExtractable
    | some symbol => .ok symbol

/-- Looks a query up; a failure is told to the user. -/
def searchPackages (query : String) : Dialogue (Option (List Candidate)) := do
  match ← Dialogue.ofSearch query with
  | .ok candidates => return some candidates
  | .error error =>
    Dialogue.say (.error (searchFailedText error))
    return none

def searchStage (query : String) : Dialogue (Except AbortReason (List Candidate)) := do
  match ← searchPackages query with
  | none => return .error .searchFailed
  | some [] => return .error .noCandidates
  | some candidates => return .ok candidates

/-- The identifier that the user picks; an answer that was not offered picks none. -/
def pickPackage (candidates : List Candidate) : Dialogue (Except AbortReason String) := do
  if candidates.isEmpty then return .error .noCandidates
  let ids := candidates.map (·.id)
  match ← Dialogue.ofPrompt ids packagePlaceholder with
  | none => return .error .packagePickCancelled
  | some choice => return if choice ∈ ids then .ok choice else .error .packagePickCancelled

def locateProjects : Dialogue (Except AbortReason (List ManifestPath)) := do
  match ← Dialogue.ofFindProjects with
  | .error failure =>
    Dialogue.say (.error (lookupFailedText failure))
    return .error .projectLookupFailed
  | .ok [] =>
    Dialogue.say (.error noProjectsText)
    return .error .noProjects
  | .ok projects => return .ok projects

/-- The project that the user picks; an answer that was not offered picks none. -/
def pickProject (projects : List ManifestPath) :
    Dialogue (Except AbortReason ManifestPath) := do
  match ← Dialogue.ofPrompt (projects.map (·.text)) projectPlaceholder with
  | none => return .error .projectPickCancelled
  | some choice =>
    match projects.find? (·.text == choice) with
    | some project => return .ok project
    | none => return .error .projectPickCancelled

/-- Tells the user about the command and hands it to the task runner. -/
def install (command : InstallCommand) : Dialogue (Except Failure InstallCommand) := do
  Dialogue.say (.info command.notice)
  match ← Dialogue.ofLaunch command.toTask with
  | .ok () => return .ok command
  | .error failure => return .error failure

namespace State

def afterStage (next : α → State) : Except AbortReason α → State
  | .ok a => next a
  | .error reason => .aborted reason

def ofProjects (packageId : String) : List ManifestPath → State
  | [project] => .installing packageId project
  | projects => .awaitingProjectPick packageId projects

def ofInstall : Except Failure InstallCommand → State
  | .ok command => .done command
  | .error _ => .aborted .installNotStarted

/-- Performs one stage; an ended flow stays as it is. -/
def step (tool : String) : State → Dialogue State
  | .matchingDiagnostic ds => return afterStage .searching (matchSymbol ds)
  | .searching query => return afterStage .awaitingPackagePick (← searchStage query)
  | .awaitingPackagePick candidates =>
    return afterStage .locatingProjects (← pickPackage candidates)
  | .locatingProjects packageId =>
    return afterStage (ofProjects packageId) (← locateProjects)
  | .awaitingProjectPick packageId projects =>
    return afterStage (.installing packageId) (← pickProject projects)
  | .installing packageId project =>
    return ofInstall (← Flow.install (.of tool packageId project))
  | .ended outcome => return .ended outcome

@[simp] theorem step_ended (tool : String) (outcome : Outcome) :
    step tool (.ended outcome) = .done (.ended outcome) := rfl

end State

def andThen (rest : α → Dialogue Outcome) : Except AbortReason α → Dialogue Outcome
  | .ok a => rest a
  | .error reason => return .aborted reason

def runInstalling (tool packageId : String) (project : ManifestPath) : Dialogue Outcome := do
  match ← install (.of tool packageId project) with
  | .ok command => return .installed command
  | .error _ => return .aborted .installNotStarted

def runAwaitingProjectPick (tool packageId : String) (projects : List ManifestPath) :
    Dialogue Outcome := do
  andThen (runInstalling tool packageId) (← pickProject projects)

def runLocatingProjects (tool packageId : String) : Dialogue Outcome := do
  andThen (fun
    | [project] => runInstalling tool packageId project
    | projects => runAwaitingProjectPick tool packageId projects) (← locateProjects)

def runAwaitingPackagePick (tool : String) (candidates : List Candidate) : Dialogue Outcome := do
  andThen (runLocatingProjects tool) (← pickPackage candidates)

def runSearching (tool query : String) : Dialogue Outcome := do
  andThen (runAwaitingPackagePick tool) (← searchStage query)

def runMatchingDiagnostic (tool : String) (ds : List Diagnostic) : Dialogue Outcome :=
  andThen (runSearching tool) (matchSymbol ds)

/-- Runs a flow from a state to its end. -/
def run (tool : String) : State → Dialogue Outcome
  | .matchingDiagnostic ds => runMatchingDiagnostic tool ds
  | .searching query => runSearching tool query
  | .awaitingPackagePick candidates => runAwaitingPackagePick tool candidates
  | .locatingProjects packageId => runLocatingProjects tool packageId
  | .awaitingProjectPick packageId projects => runAwaitingProjectPick tool packageId projects
  | .installing packageId project => runInstalling tool packageId project
  | .ended outcome => return outcome

@[simp] theorem run_ended (tool : String) (outcome : Outcome) :
    run tool (.ended outcome) = .done outcome := rfl

/-- A run is one step and the run from where it leads. -/
theorem step_bind_run (tool : String) (s : State) : (s.step tool).bind (run tool) = run tool s := by
  cases s with
  | matchingDiagnostic ds =>
    simp only [State.step, run, runMatchingDiagnostic, Dialogue.pure_eq, Dialogue.done_bind]
    cases matchSymbol ds <;> rfl
  | searching query =>
    simp only [State.step, run, runSearching, Dialogue.bind_eq, Dialogue.pure_eq,
      Dialogue.bind_assoc, Dialogue.done_bind]
    congr 1
    funext r
    cases r <;> rfl
  | awaitingPackagePick candidates =>
    simp only [State.step, run, runAwaitingPackagePick, Dialogue.bind_eq, Dialogue.pure_eq,
      Dialogue.bind_assoc, Dialogue.done_bind]
    congr 1
    funext r
    cases r <;> rfl
  | locatingProjects packageId =>
    simp only [State.step, run, runLocatingProjects, Dialogue.bind_eq, Dialogue.pure_eq,
      Dialogue.bind_assoc, Dialogue.done_bind]
    congr 1
    funext r
    match r with
    | .error _ | .ok [] | .ok [_] | .ok (_ :: _ :: _) => rfl
  | awaitingProjectPick packageId projects =>
    simp only [State.step, run, runAwaitingProjectPick, Dialogue.bind_eq, Dialogue.pure_eq,
      Dialogue.bind_assoc, Dialogue.done_bind]
    congr 1
    funext r
    cases r <;> rfl
  | installing packageId project =>
    simp only [State.step, run, runInstalling, Dialogue.bind_eq, Dialogue.pure_eq,
      Dialogue.bind_assoc, Dialogue.done_bind]
    congr 1
    funext r
    cases r <;> rfl
  | ended outcome => rfl

end Remedy.Flow
