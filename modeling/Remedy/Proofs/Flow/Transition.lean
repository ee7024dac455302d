import Remedy.Flow.Stages
import Remedy.Proofs.Exchange

namespace Remedy.Flow

/-- The state `st` can step to `st'` with these exchanges. -/
inductive Transition (tool : String) : State → List Exchange → State → Prop
  | unmatched (h : matchSymbol ds = .error reason) :
      Transition tool (.matchingDiagnostic ds) [] (.aborted reason)
  | matched (h : matchSymbol ds = .ok symbol) :
      Transition tool (.matchingDiagnostic ds) [] (.searching symbol)
  | searchFailed :
      Transition tool (.searching query)
        [.search query (.error e), .notify (.error (searchFailedText e))]
        (.aborted .searchFailed)
  | nothingFound :
      Transition tool (.searching query) [.search query (.ok [])] (.aborted .noCandidates)
  | found (h : candidates ≠ []) :
      Transition tool (.searching query) [.search query (.ok candidates)]
        (.awaitingPackagePick candidates)
  | nothingOffered : Transition tool (.awaitingPackagePick []) [] (.aborted .noCandidates)
  | packageDismissed (h : candidates ≠ []) :
      Transition tool (.awaitingPackagePick candidates)
        [.prompt (candidates.map (·.id)) packagePlaceholder none]
        (.aborted .packagePickCancelled)
  | packageUnknown (h : candidates ≠ []) (hx : x ∉ candidates.map (·.id)) :
      Transition tool (.awaitingPackagePick candidates)
        [.prompt (candidates.map (·.id)) packagePlaceholder (some x)]
        (.aborted .packagePickCancelled)
  | packagePicked (hx : x ∈ candidates.map (·.id)) :
      Transition tool (.awaitingPackagePick candidates)
        [.prompt (candidates.map (·.id)) packagePlaceholder (some x)] (.locatingProjects x)
  | lookupFailed :
      Transition tool (.locatingProjects packageId)
        [.findProjects (.error e), .notify (.error (lookupFailedText e))]
        (.aborted .projectLookupFailed)
  | noProjects :
      Transition tool (.locatingProjects packageId)
        [.findProjects (.ok []), .notify (.error noProjectsText)] (.aborted .noProjects)
  | oneProject :
      Transition tool (.locatingProjects packageId) [.findProjects (.ok [project])]
        (.installing packageId project)
  | severalProjects (h : 2 ≤ projects.length) :
      Transition tool (.locatingProjects packageId) [.findProjects (.ok projects)]
        (.awaitingProjectPick packageId projects)
  | projectDismissed :
      Transition tool (.awaitingProjectPick packageId projects)
        [.prompt (projects.map (·.text)) projectPlaceholder none]
        (.aborted .projectPickCancelled)
  | projectUnknown (hx : x ∉ projects.map (·.text)) :
      Transition tool (.awaitingProjectPick packageId projects)
        [.prompt (projects.map (·.text)) projectPlaceholder (some x)]
        (.aborted .projectPickCancelled)
  | projectPicked (h : project ∈ projects) :
      Transition tool (.awaitingProjectPick packageId projects)
        [.prompt (projects.map (·.text)) projectPlaceholder (some project.text)]
        (.installing packageId project)
  | refused :
      Transition tool (.installing packageId project)
        [.notify (.info (InstallCommand.of tool packageId project).notice),
          .launch (InstallCommand.of tool packageId project).toTask (.error e)]
        (.aborted .installNotStarted)
  | launched :
      Transition tool (.installing packageId project)
        [.notify (.info (InstallCommand.of tool packageId project).notice),
          .launch (InstallCommand.of tool packageId project).toTask (.ok ())]
        (.done (.of tool packageId project))

/-- Every step is a transition, whatever the host answers. -/
theorem transition_step (tool : String) (host : Host σ) (s : σ) {st : State}
    (hst : st.isTerminal = false) :
    Transition tool st ((st.step tool).exchanges host s) ((st.step tool).run host s).result := by
  cases st with
  | matchingDiagnostic ds =>
    simp only [State.step]
    cases h : matchSymbol ds with
    | error reason => exact .unmatched h
    | ok symbol => exact .matched h
  | searching query =>
    simp only [State.step, searchStage, searchPackages, Dialogue.ofSearch, Dialogue.bind_eq,
      Dialogue.bind, Dialogue.exchanges, Dialogue.run]
    cases (host.search query s).1 with
    | error e => exact .searchFailed
    | ok candidates =>
      cases candidates with
      | nil => exact .nothingFound
      | cons => exact .found (List.cons_ne_nil _ _)
  | awaitingPackagePick candidates =>
    simp only [State.step, pickPackage]
    cases candidates with
    | nil => exact .nothingOffered
    | cons c cs =>
      simp only [List.isEmpty_cons, Bool.false_eq_true, if_false, Dialogue.ofPrompt,
        Dialogue.bind_eq, Dialogue.bind, Dialogue.exchanges, Dialogue.run]
      cases (host.prompt ((c :: cs).map (·.id)) packagePlaceholder s).1 with
      | none => exact .packageDismissed (List.cons_ne_nil _ _)
      | some x =>
        by_cases hx : x ∈ (c :: cs).map (·.id)
        · simpa only [if_pos hx] using .packagePicked hx
        · simpa only [if_neg hx] using .packageUnknown (List.cons_ne_nil _ _) hx
  | locatingProjects packageId =>
    simp only [State.step, locateProjects, Dialogue.ofFindProjects, Dialogue.bind_eq,
      Dialogue.bind, Dialogue.exchanges, Dialogue.run]
    rcases (host.findProjects s).1 with e | _ | ⟨p, _ | ⟨q, projects⟩⟩
    · exact .lookupFailed
    · exact .noProjects
    · exact .oneProject
    · exact .severalProjects (Nat.le_add_left 2 projects.length)
  | awaitingProjectPick packageId projects =>
    simp only [State.step, pickProject, Dialogue.ofPrompt, Dialogue.bind_eq, Dialogue.bind,
      Dialogue.exchanges, Dialogue.run]
    cases (host.prompt (projects.map (·.text)) projectPlaceholder s).1 with
    | none => exact .projectDismissed
    | some x =>
      simp only
      cases hf : projects.find? (·.text == x) with
      | none => exact .projectUnknown (by simpa using hf)
      | some project =>
        have ht : project.text = x := by simpa using List.find?_some hf
        subst ht
        exact .projectPicked (List.mem_of_find?_eq_some hf)
  | installing packageId project =>
    simp only [State.step, install, Dialogue.say, Dialogue.ofLaunch, Dialogue.bind_eq,
      Dialogue.bind, Dialogue.exchanges, Dialogue.run]
    cases (host.launch (InstallCommand.of tool packageId project).toTask
        (host.notify (.info (InstallCommand.of tool packageId project).notice) s)).1 with
    | error e => exact .refused
    | ok => exact .launched
  | ended => cases hst

theorem find?_text_of_mem {projects : List ManifestPath} (h : project ∈ projects) :
    projects.find? (·.text == project.text) = some project := by
  cases hf : projects.find? (·.text == project.text) with
  | none => simpa using List.find?_eq_none.1 hf project h
  | some p =>
    have ht : p.text = project.text := by simpa using List.find?_some hf
    rw [ManifestPath.eq_of_text_eq ht]

/-- Every transition is a step, under any host that gives its answers. -/
theorem Transition.ends (h : Transition tool st es st') : (st.step tool).Ends es st' := by
  cases h with
  | unmatched h | matched h =>
    simp only [State.step, h]
    exact .done
  | searchFailed => exact .search (.notify .done)
  | nothingFound => exact .search .done
  | @found candidates query hne =>
    obtain _ | ⟨c, cs⟩ := candidates
    · exact absurd rfl hne
    · exact .search .done
  | nothingOffered => exact .done
  | @packageDismissed candidates hne =>
    obtain _ | ⟨c, cs⟩ := candidates
    · exact absurd rfl hne
    · exact .prompt .done
  | @packageUnknown candidates x hne hx =>
    obtain _ | ⟨c, cs⟩ := candidates
    · exact absurd rfl hne
    · refine .prompt ?_
      simp only [Dialogue.done_bind, Dialogue.pure_eq, if_neg hx]
      exact .done
  | @packagePicked x candidates hx =>
    obtain _ | ⟨c, cs⟩ := candidates
    · cases hx
    · refine .prompt ?_
      simp only [Dialogue.done_bind, Dialogue.pure_eq, if_pos hx]
      exact .done
  | lookupFailed | noProjects => exact .findProjects (.notify .done)
  | oneProject => exact .findProjects .done
  | @severalProjects _ projects hl =>
    obtain _ | ⟨p, _ | ⟨q, projects⟩⟩ := projects
    · simp at hl
    · simp at hl
    · exact .findProjects .done
  | projectDismissed => exact .prompt .done
  | @projectUnknown x _ projects hx =>
    have hf : projects.find? (·.text == x) = none := by simpa using hx
    refine .prompt ?_
    simp only [Dialogue.done_bind, hf]
    exact .done
  | projectPicked hm =>
    refine .prompt ?_
    simp only [Dialogue.done_bind, find?_text_of_mem hm]
    exact .done
  | refused | launched => exact .notify (.launch .done)

theorem State.rank_le_six (st : State) : st.rank ≤ 6 := by
  cases st <;> simp [rank]

theorem Transition.rank_lt (h : Transition tool st es st') : st.rank < st'.rank := by
  cases h <;> simp [State.rank]

/-- A flow can go from the state `st` to its end with these exchanges. -/
inductive Course (tool : String) : State → List Exchange → Outcome → Prop
  | ended : Course tool (.ended outcome) [] outcome
  | step (h : Transition tool st es st') (hc : Course tool st' es' outcome) :
      Course tool st (es ++ es') outcome

/-- Every run is a course, whatever the host answers. -/
theorem course_run (tool : String) (host : Host σ) (st : State) (s : σ) :
    Course tool st ((run tool st).exchanges host s) ((run tool st).run host s).result := by
  cases hst : st.isTerminal with
  | true =>
    cases st with
    | ended => exact .ended
    | _ => cases hst
  | false =>
    have ht := transition_step tool host s hst
    -- the rank of the next state is higher, and no rank is above six
    have hlt := ht.rank_lt
    have hle := ((st.step tool).run host s).result.rank_le_six
    have ih := course_run tool host ((st.step tool).run host s).result
      ((st.step tool).run host s).host
    rw [← step_bind_run, Dialogue.exchanges_bind, Dialogue.run_bind]
    exact .step ht ih
termination_by 6 - st.rank

/-- Every course is a run, under any host that gives its answers. -/
theorem Course.ends (h : Course tool st es outcome) : (run tool st).Ends es outcome := by
  induction h with
  | ended => exact .done
  | step ht _ ih =>
    rw [← step_bind_run]
    exact ht.ends.bind ih

/-- Runs and courses are the same thing seen with a host and without one. -/
theorem run_eq_iff_course {host : Host σ} :
    (run tool st).run host s = ⟨outcome, calls, s'⟩ ↔
      ∃ es, Course tool st es outcome ∧ host.Answers s es s' ∧ calls = es.map Exchange.call := by
  constructor
  · intro h
    have hc := course_run tool host st s
    have ha := Dialogue.answers_exchanges host (run tool st) s
    have he := Dialogue.calls_run host (run tool st) s
    rw [h] at hc ha he
    exact ⟨_, hc, ha, he⟩
  · rintro ⟨es, hc, ha, rfl⟩
    exact hc.ends.run_eq ha

theorem Course.eq_of_ended (h : Course tool (.ended outcome) es outcome') :
    es = [] ∧ outcome' = outcome := by
  cases h with
  | ended => exact ⟨rfl, rfl⟩
  | step ht => cases ht

end Remedy.Flow
