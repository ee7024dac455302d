import Remedy.Proofs.Flow.Transition

namespace Remedy.Flow

open Registry (Candidate)

/-- A project that is not the only one is prompted for. -/
def projectExchanges (projects : List ManifestPath) (project : ManifestPath) : List Exchange :=
  if projects = [project] then []
  else [.prompt (projects.map (·.text)) projectPlaceholder (some project.text)]

def launchExchanges (command : InstallCommand) : List Exchange :=
  [.notify (.info command.notice), .launch command.toTask (.ok ())]

theorem course_installing_iff : Course tool (.installing packageId project) es (.installed c) ↔
    c = .of tool packageId project ∧ es = launchExchanges c := by
  constructor
  · intro h
    cases h with
    | step ht hc =>
      cases ht with
      | refused => cases hc.eq_of_ended.2
      | launched =>
        obtain ⟨rfl, ho⟩ := hc.eq_of_ended
        cases ho
        exact ⟨rfl, rfl⟩
  · rintro ⟨rfl, rfl⟩
    exact .step .launched .ended

theorem course_awaitingProjectPick_iff :
    Course tool (.awaitingProjectPick packageId projects) es (.installed c) ↔
      ∃ project ∈ projects, c = .of tool packageId project ∧
        es = .prompt (projects.map (·.text)) projectPlaceholder (some project.text) ::
          launchExchanges c := by
  constructor
  · intro h
    cases h with
    | step ht hc =>
      cases ht with
      | projectDismissed | projectUnknown => cases hc.eq_of_ended.2
      | projectPicked hp =>
        obtain ⟨hcommand, rfl⟩ := course_installing_iff.1 hc
        exact ⟨_, hp, hcommand, rfl⟩
  · rintro ⟨project, hp, hcommand, rfl⟩
    exact .step (.projectPicked hp) (course_installing_iff.2 ⟨hcommand, rfl⟩)

theorem two_le_length_of_ne_singleton {projects : List ManifestPath} (hp : project ∈ projects)
    (hne : projects ≠ [project]) : 2 ≤ projects.length := by
  obtain _ | ⟨p, _ | ⟨q, projects⟩⟩ := projects
  · cases hp
  · rw [List.mem_singleton.1 hp] at hne
    exact absurd rfl hne
  · exact Nat.le_add_left 2 projects.length

theorem course_locatingProjects_iff :
    Course tool (.locatingProjects packageId) es (.installed c) ↔
      ∃ projects, ∃ project ∈ projects, c = .of tool packageId project ∧
        es = .findProjects (.ok projects) ::
          (projectExchanges projects project ++ launchExchanges c) := by
  constructor
  · intro h
    cases h with
    | step ht hc =>
      cases ht with
      | lookupFailed | noProjects => cases hc.eq_of_ended.2
      | oneProject =>
        obtain ⟨hcommand, rfl⟩ := course_installing_iff.1 hc
        exact ⟨_, _, List.mem_singleton.2 rfl, hcommand, by simp [projectExchanges]⟩
      | severalProjects hl =>
        obtain ⟨project, hp, hcommand, rfl⟩ := course_awaitingProjectPick_iff.1 hc
        refine ⟨_, project, hp, hcommand, ?_⟩
        rw [projectExchanges, if_neg]
        · rfl
        · rintro rfl
          simp at hl
  · rintro ⟨projects, project, hp, hcommand, rfl⟩
    by_cases hone : projects = [project]
    · subst hone
      rw [projectExchanges, if_pos rfl]
      exact .step .oneProject (course_installing_iff.2 ⟨hcommand, rfl⟩)
    · rw [projectExchanges, if_neg hone]
      exact .step (.severalProjects (two_le_length_of_ne_singleton hp hone))
        (course_awaitingProjectPick_iff.2 ⟨project, hp, hcommand, rfl⟩)

theorem course_awaitingPackagePick_iff :
    Course tool (.awaitingPackagePick candidates) es (.installed c) ↔
      ∃ packageId ∈ candidates.map (·.id), ∃ projects, ∃ project ∈ projects,
        c = .of tool packageId project ∧
          es = .prompt (candidates.map (·.id)) packagePlaceholder (some packageId) ::
            .findProjects (.ok projects) ::
              (projectExchanges projects project ++ launchExchanges c) := by
  constructor
  · intro h
    cases h with
    | step ht hc =>
      cases ht with
      | nothingOffered | packageDismissed | packageUnknown => cases hc.eq_of_ended.2
      | packagePicked hx =>
        obtain ⟨projects, project, hp, hcommand, rfl⟩ := course_locatingProjects_iff.1 hc
        exact ⟨_, hx, projects, project, hp, hcommand, rfl⟩
  · rintro ⟨packageId, hx, projects, project, hp, hcommand, rfl⟩
    exact .step (.packagePicked hx)
      (course_locatingProjects_iff.2 ⟨projects, project, hp, hcommand, rfl⟩)

/-- What is said in a flow that installs. -/
def installExchanges (tool query : String) (candidates : List Candidate) (packageId : String)
    (projects : List ManifestPath) (project : ManifestPath) : List Exchange :=
  .search query (.ok candidates) ::
    .prompt (candidates.map (·.id)) packagePlaceholder (some packageId) ::
      .findProjects (.ok projects) ::
        (projectExchanges projects project ++ launchExchanges (.of tool packageId project))

theorem course_searching_iff : Course tool (.searching query) es (.installed c) ↔
    ∃ candidates, ∃ packageId ∈ candidates.map (·.id), ∃ projects, ∃ project ∈ projects,
      c = .of tool packageId project ∧
        es = installExchanges tool query candidates packageId projects project := by
  constructor
  · intro h
    cases h with
    | step ht hc =>
      cases ht with
      | searchFailed | nothingFound => cases hc.eq_of_ended.2
      | found =>
        obtain ⟨packageId, hx, projects, project, hp, rfl, rfl⟩ :=
          course_awaitingPackagePick_iff.1 hc
        exact ⟨_, packageId, hx, projects, project, hp, rfl, rfl⟩
  · rintro ⟨candidates, packageId, hx, projects, project, hp, rfl, rfl⟩
    have hne : candidates ≠ [] := by
      rintro rfl
      cases hx
    exact .step (.found hne)
      (course_awaitingPackagePick_iff.2 ⟨packageId, hx, projects, project, hp, rfl, rfl⟩)

def launchedTask? : Call → Option Task
  | .launch task true => some task
  | _ => none

def launchedTasks (calls : List Call) : List Task := calls.filterMap launchedTask?

def Outcome.tasks : Outcome → List Task
  | .installed command => [command.toTask]
  | .aborted _ => []

def State.tasks : State → List Task
  | .ended outcome => outcome.tasks
  | _ => []

theorem Transition.tasks_append (h : Transition tool st es st') :
    st.tasks ++ launchedTasks (es.map Exchange.call) = st'.tasks := by
  cases h <;> rfl

theorem Course.tasks_append (h : Course tool st es outcome) :
    st.tasks ++ launchedTasks (es.map Exchange.call) = outcome.tasks := by
  induction h with
  | ended => exact List.append_nil _
  | step ht _ ih =>
    rw [← ih, ← ht.tasks_append, List.map_append, launchedTasks, List.filterMap_append,
      List.append_assoc]
    rfl

/-- From a state that has not ended, a run starts the task of the command that it installs, and none
if it installs nothing. -/
theorem launchedTasks_run (tool : String) (host : Host σ) {st : State}
    (hst : st.isTerminal = false) (s : σ) :
    launchedTasks ((run tool st).run host s).calls = ((run tool st).run host s).result.tasks := by
  have h := (course_run tool host st s).tasks_append
  rw [← Dialogue.calls_run] at h
  cases st with
  | ended => cases hst
  | _ => exact h

/-- The host's answers, from the state `s` on, that make a flow for `query` install `packageId` into
`project`. -/
structure Provenance (tool query : String) (host : Host σ) (s : σ) (candidates : List Candidate)
    (packageId : String) (projects : List ManifestPath) (project : ManifestPath) : Prop where
  offered : packageId ∈ candidates.map (·.id)
  found : project ∈ projects
  answers : ∃ s', host.Answers s
    (installExchanges tool query candidates packageId projects project) s'

theorem Provenance.run_eq {host : Host σ}
    (h : Provenance tool query host s candidates packageId projects project) :
    ∃ s', (run tool (.searching query)).run host s =
      ⟨.installed (.of tool packageId project),
        (installExchanges tool query candidates packageId projects project).map Exchange.call,
        s'⟩ := by
  obtain ⟨hx, hp, s', ha⟩ := h
  have hc : Course tool (.searching query) _ _ :=
    course_searching_iff.2 ⟨candidates, packageId, hx, projects, project, hp, rfl, rfl⟩
  exact ⟨s', run_eq_iff_course.2 ⟨_, hc, ha, rfl⟩⟩

theorem exists_provenance {host : Host σ}
    (h : ((run tool (.searching query)).run host s).result = .installed c) :
    ∃ candidates packageId projects project,
      Provenance tool query host s candidates packageId projects project ∧
        c = .of tool packageId project := by
  generalize hrun : (run tool (.searching query)).run host s = t at h
  obtain ⟨outcome, calls, s'⟩ := t
  obtain rfl : outcome = .installed c := h
  obtain ⟨es, hc, ha, -⟩ := run_eq_iff_course.1 hrun
  obtain ⟨candidates, packageId, hx, projects, project, hp, hcommand, rfl⟩ :=
    course_searching_iff.1 hc
  exact ⟨candidates, packageId, projects, project, ⟨hx, hp, _, ha⟩, hcommand⟩

/-- A search installs what its provenance says, and nothing without one. -/
theorem installed_iff_provenance (tool query : String) (host : Host σ) (s : σ) :
    let t := (run tool (.searching query)).run host s
    (∀ c, t.result = .installed c ↔ ∃ candidates packageId projects project,
        Provenance tool query host s candidates packageId projects project ∧
          c = .of tool packageId project) ∧
      (∀ candidates packageId projects project,
        Provenance tool query host s candidates packageId projects project →
          t.calls = (installExchanges tool query candidates packageId projects project).map
            Exchange.call) ∧
      (∀ c, t.result = .installed c → launchedTasks t.calls = [c.toTask]) ∧
      ((∀ c, t.result ≠ .installed c) → launchedTasks t.calls = []) := by
  intro t
  have htasks : launchedTasks t.calls = t.result.tasks :=
    launchedTasks_run tool host rfl s
  rw [htasks]
  refine ⟨fun c => ⟨exists_provenance, ?_⟩, ?_, ?_, ?_⟩
  · rintro ⟨candidates, packageId, projects, project, h, rfl⟩
    obtain ⟨s', he⟩ := h.run_eq
    exact congrArg Transcript.result he
  · intro candidates packageId projects project h
    obtain ⟨s', he⟩ := h.run_eq
    exact congrArg Transcript.calls he
  · intro c hc
    rw [hc, Outcome.tasks]
  · intro hne
    cases h : t.result with
    | installed c => exact absurd h (hne c)
    | aborted => rfl

/-- With two packages and two projects, a user who always picks the last item. -/
theorem installed_iff_provenance_last :
    let projects : List ManifestPath := [⟨"A.csproj", by decide⟩, ⟨"B/B.csproj", by decide⟩]
    let candidates : List Candidate := [{ id := "A" }, { id := "B" }]
    let host : Host Unit := {
      search := fun _ s => (.ok candidates, s)
      findProjects := fun s => (.ok projects, s)
      prompt := fun items _ s => (items.getLast?, s)
      notify := fun _ s => s
      launch := fun _ s => (.ok (), s) }
    let t := (run "dotnet" (.searching "X")).run host ()
    let command := InstallCommand.of "dotnet" "B" ⟨"B/B.csproj", by decide⟩
    t.result = .installed command ∧ launchedTasks t.calls = [command.toTask] := by
  intro projects candidates host t command
  have hp : Provenance "dotnet" "X" host () candidates "B" projects ⟨"B/B.csproj", by decide⟩ := by
    refine ⟨by simp [candidates], by simp [projects], (), ?_⟩
    simp [installExchanges, projectExchanges, launchExchanges, Host.Answers, Host.Answer, host,
      candidates, projects]
  obtain ⟨hiff, -, htask, -⟩ := installed_iff_provenance "dotnet" "X" host ()
  have hr : t.result = .installed command := (hiff command).2 ⟨_, _, _, _, hp, rfl⟩
  exact ⟨hr, htask command hr⟩

end Remedy.Flow
