import Remedy.Proofs.Flow.Provenance
import Remedy.Service

namespace Remedy

def errorText? : Call → Option String
  | .notify (.error text) => some text
  | _ => none

def infoText? : Call → Option String
  | .notify (.info text) => some text
  | _ => none

def errorTexts (calls : List Call) : List String := calls.filterMap errorText?

def infoTexts (calls : List Call) : List String := calls.filterMap infoText?

/-- The user is told nothing and nothing is launched. -/
def Exchange.isQuiet : Exchange → Bool
  | .search .. | .findProjects _ | .prompt .. => true
  | .notify _ | .launch .. => false

theorem nothing_of_isQuiet {e : Exchange} (h : e.isQuiet = true) :
    errorText? e.call = none ∧ infoText? e.call = none ∧ Flow.launchedTask? e.call = none := by
  cases e with
  | search | findProjects | prompt => exact ⟨rfl, rfl, rfl⟩
  | notify | launch => cases h

theorem filterMap_quiet_append {f : Call → Option α}
    (hf : ∀ e : Exchange, e.isQuiet = true → f e.call = none)
    (hq : ∀ e ∈ quiet, e.isQuiet = true) (es : List Exchange) :
    ((quiet ++ es).map Exchange.call).filterMap f = (es.map Exchange.call).filterMap f := by
  have hnil : (quiet.map Exchange.call).filterMap f = [] := by
    rw [List.filterMap_eq_nil_iff]
    intro c hc
    obtain ⟨e, he, rfl⟩ := List.mem_map.1 hc
    exact hf e (hq e he)
  rw [List.map_append, List.filterMap_append, hnil, List.nil_append]

namespace Flow

/-- The reasons for which a flow ends without a word. -/
def AbortReason.isSilent : AbortReason → Bool
  | .noUnresolvedDiagnostic | .symbolNotExtractable | .noCandidates | .packagePickCancelled
  | .projectPickCancelled => true
  | _ => false

/-- The text of the error notice for a reason, and the answer that it reports. -/
inductive Reports (es : List Exchange) : AbortReason → String → Prop
  | searchFailed (h : .search query (.error e) ∈ es) :
      Reports es .searchFailed ("Failed to search for packages: " ++ e.message)
  | lookupFailed (h : .findProjects (.error e) ∈ es) :
      Reports es .projectLookupFailed ("Failed to find project files: " ++ e.message)
  | noProjects (h : .findProjects (.ok []) ∈ es) : Reports es .noProjects "No project files found"

/-- The exchanges with which a flow comes to its outcome. -/
inductive Closing (tool : String) : List Exchange → Outcome → Prop
  | silent (h : reason.isSilent = true) : Closing tool [] (.aborted reason)
  | reported (h : Reports [e] reason text) :
      Closing tool [e, .notify (.error text)] (.aborted reason)
  | refused : Closing tool
      [.notify (.info (InstallCommand.of tool packageId project).notice),
        .launch (InstallCommand.of tool packageId project).toTask (.error e)]
      (.aborted .installNotStarted)
  | launched : Closing tool
      [.notify (.info (InstallCommand.of tool packageId project).notice),
        .launch (InstallCommand.of tool packageId project).toTask (.ok ())]
      (.installed (.of tool packageId project))

def Closes (tool : String) (es : List Exchange) (outcome : Outcome) : Prop :=
  ∃ quiet last, es = quiet ++ last ∧ (∀ e ∈ quiet, e.isQuiet = true) ∧ Closing tool last outcome

theorem Closing.closes (h : Closing tool es outcome) : Closes tool es outcome :=
  ⟨[], es, rfl, by simp, h⟩

theorem closes_silently (hes : ∀ e ∈ es, e.isQuiet = true) (h : reason.isSilent = true) :
    Closes tool es (.aborted reason) :=
  ⟨es, [], (List.append_nil es).symm, hes, .silent h⟩

theorem Closes.quiet_append (h : Closes tool es outcome) (hq : ∀ e ∈ quiet, e.isQuiet = true) :
    Closes tool (quiet ++ es) outcome := by
  obtain ⟨quiet', last, rfl, hq', hc⟩ := h
  exact ⟨quiet ++ quiet', last, (List.append_assoc ..).symm,
    List.forall_mem_append.2 ⟨hq, hq'⟩, hc⟩

theorem isSilent_of_matchSymbol (h : matchSymbol ds = .error reason) :
    reason.isSilent = true := by
  rw [matchSymbol] at h
  split at h
  · cases h
    rfl
  · split at h
    · cases h
      rfl
    · cases h

/-- A step that does not end the flow is quiet, and one that ends it closes it. -/
theorem Transition.quiet_or_closes (h : Transition tool st es st') :
    (st'.isTerminal = false ∧ ∀ e ∈ es, e.isQuiet = true) ∨
      ∃ outcome, st' = .ended outcome ∧ Closes tool es outcome := by
  cases h with
  | unmatched h =>
    exact .inr ⟨_, rfl, closes_silently (by simp) (isSilent_of_matchSymbol h)⟩
  | nothingFound | nothingOffered | packageDismissed | packageUnknown | projectDismissed
  | projectUnknown =>
    exact .inr ⟨_, rfl, closes_silently (by simp [Exchange.isQuiet]) rfl⟩
  | matched | found | packagePicked | oneProject | severalProjects | projectPicked =>
    exact .inl ⟨rfl, by simp [Exchange.isQuiet]⟩
  | searchFailed =>
    exact .inr ⟨_, rfl, Closing.closes (.reported (.searchFailed List.mem_cons_self))⟩
  | lookupFailed =>
    exact .inr ⟨_, rfl, Closing.closes (.reported (.lookupFailed List.mem_cons_self))⟩
  | noProjects => exact .inr ⟨_, rfl, Closing.closes (.reported (.noProjects List.mem_cons_self))⟩
  | refused => exact .inr ⟨_, rfl, Closing.refused.closes⟩
  | launched => exact .inr ⟨_, rfl, Closing.launched.closes⟩

theorem Course.closes (h : Course tool st es outcome) (hst : st.isTerminal = false) :
    Closes tool es outcome := by
  induction h with
  | ended => cases hst
  | step ht hc ih =>
    obtain ⟨hst', hq⟩ | ⟨outcome', rfl, hcl⟩ := ht.quiet_or_closes
    · exact (ih hst').quiet_append hq
    · obtain ⟨rfl, rfl⟩ := hc.eq_of_ended
      rwa [List.append_nil]

def Outcome.errorCount : Outcome → Nat
  | .installed _ => 0
  | .aborted reason => if reason.isReported then 1 else 0

def Outcome.infoCount : Outcome → Nat
  | .installed _ => 1
  | .aborted reason => if reason = .installNotStarted then 1 else 0

def Outcome.taskCount : Outcome → Nat
  | .installed _ => 1
  | .aborted _ => 0

def Outcome.isUnasked : Outcome → Bool
  | .aborted (.unknownCommand _) | .aborted .missingSymbol => true
  | _ => false

/-- What the exchanges on the way to an outcome tell the user and start. -/
structure Told (es : List Exchange) (outcome : Outcome) : Prop where
  errors : (errorTexts (es.map Exchange.call)).length = outcome.errorCount
  infos : (infoTexts (es.map Exchange.call)).length = outcome.infoCount
  tasks : (launchedTasks (es.map Exchange.call)).length = outcome.taskCount
  reported : ∀ text ∈ errorTexts (es.map Exchange.call),
    ∃ reason, outcome = .aborted reason ∧ Reports es reason text
  /-- An info notice announces the command whose launch is attempted next. -/
  announced : ∀ text ∈ infoTexts (es.map Exchange.call), ∃ command quiet reply,
    text = command.notice ∧ (∀ c, outcome = .installed c → command = c) ∧
      (∀ e ∈ quiet, e.isQuiet = true) ∧
      es = quiet ++ [.notify (.info command.notice), .launch command.toTask reply]
  unannounced : infoTexts (es.map Exchange.call) = [] → ∀ task reply, .launch task reply ∉ es
  unasked : outcome.isUnasked = true → es = []

theorem Reports.mono (h : Reports es reason text) (hs : es ⊆ es') : Reports es' reason text := by
  cases h with
  | searchFailed h => exact .searchFailed (hs h)
  | lookupFailed h => exact .lookupFailed (hs h)
  | noProjects h => exact .noProjects (hs h)

theorem Told.quiet_append (h : Told es outcome) (hq : ∀ e ∈ quiet, e.isQuiet = true)
    (hasked : outcome.isUnasked = false) : Told (quiet ++ es) outcome := by
  have herrors : errorTexts ((quiet ++ es).map Exchange.call) = errorTexts (es.map Exchange.call) :=
    filterMap_quiet_append (fun _ he => (nothing_of_isQuiet he).1) hq es
  have hinfos : infoTexts ((quiet ++ es).map Exchange.call) = infoTexts (es.map Exchange.call) :=
    filterMap_quiet_append (fun _ he => (nothing_of_isQuiet he).2.1) hq es
  have htasks : launchedTasks ((quiet ++ es).map Exchange.call) =
      launchedTasks (es.map Exchange.call) :=
    filterMap_quiet_append (fun _ he => (nothing_of_isQuiet he).2.2) hq es
  refine ⟨by rw [herrors, h.errors], by rw [hinfos, h.infos], by rw [htasks, h.tasks],
    ?_, ?_, ?_, fun hu => by simp [hasked] at hu⟩
  · intro text ht
    obtain ⟨reason, ho, hr⟩ := h.reported text (herrors ▸ ht)
    exact ⟨reason, ho, hr.mono (List.subset_append_right quiet es)⟩
  · intro text ht
    obtain ⟨command, quiet', reply, hc, ho, hq', rfl⟩ := h.announced text (hinfos ▸ ht)
    exact ⟨command, quiet ++ quiet', reply, hc, ho, List.forall_mem_append.2 ⟨hq, hq'⟩,
      (List.append_assoc ..).symm⟩
  · intro hi task reply hm
    obtain hm | hm := List.mem_append.1 hm
    · cases hq _ hm
    · exact h.unannounced (hinfos ▸ hi) task reply hm

theorem told_aborted_nil (h : reason.isReported = false) (h' : reason ≠ .installNotStarted) :
    Told [] (.aborted reason) where
  errors := by simp [errorTexts, Outcome.errorCount, h]
  infos := by simp [infoTexts, Outcome.infoCount, h']
  tasks := rfl
  reported := nofun
  announced := nofun
  unannounced := nofun
  unasked := fun _ => rfl

theorem told_reported (h : Reports [e] reason text) :
    Told [e, .notify (.error text)] (.aborted reason) := by
  have hreports := h.mono (List.subset_append_left [e] [.notify (.error text)])
  cases h with
  | searchFailed he | lookupFailed he | noProjects he =>
    obtain rfl := List.mem_singleton.1 he
    refine ⟨rfl, rfl, rfl, fun _ ht => ?_, nofun, by simp, nofun⟩
    obtain rfl := List.mem_singleton.1 ht
    exact ⟨_, rfl, hreports⟩

theorem Closing.told (h : Closing tool es outcome) : Told es outcome := by
  cases h with
  | @silent reason h =>
    cases reason with
    | noUnresolvedDiagnostic | symbolNotExtractable | noCandidates | packagePickCancelled
    | projectPickCancelled => exact told_aborted_nil rfl nofun
    | _ => cases h
  | reported h => exact told_reported h
  | refused =>
    refine ⟨rfl, rfl, rfl, nofun, fun _ ht => ?_, nofun, nofun⟩
    obtain rfl := List.mem_singleton.1 ht
    exact ⟨_, [], _, rfl, nofun, nofun, rfl⟩
  | launched =>
    refine ⟨rfl, rfl, rfl, nofun, fun _ ht => ?_, nofun, nofun⟩
    obtain rfl := List.mem_singleton.1 ht
    exact ⟨_, [], _, rfl, fun _ ho => Outcome.installed.inj ho, nofun, rfl⟩

theorem Closing.isUnasked_eq_false (h : Closing tool es outcome) : outcome.isUnasked = false := by
  cases h with
  | @silent reason h => cases reason <;> first | rfl | cases h
  | reported h => cases h <;> rfl
  | refused | launched => rfl

theorem told_run (tool : String) (host : Host σ) {st : State} (hst : st.isTerminal = false)
    (s : σ) : Told ((run tool st).exchanges host s) ((run tool st).run host s).result := by
  obtain ⟨quiet, last, hes, hq, hc⟩ := (course_run tool host st s).closes hst
  rw [hes]
  exact hc.told.quiet_append hq hc.isUnasked_eq_false

end Flow

namespace Service

open Remedy.Flow (Told)

theorem told_executeCommand (service : Service) (command : String) (arguments : List Json)
    (host : Host σ) (s : σ) :
    Told ((service.executeCommand command arguments).exchanges host s)
      ((service.executeCommand command arguments).run host s).result := by
  rw [executeCommand]
  split
  · split
    · exact Flow.told_run _ host rfl s
    · exact Flow.told_aborted_nil rfl nofun
  · exact Flow.told_aborted_nil rfl nofun

end Service

/-- Whether it is run from a state, activated as a command or resolved, a remedy tells the user of
its failure once, of its launch once, or nothing, as its outcome says. -/
theorem told_once (host : Host σ) (s : σ) :
    (∀ tool (st : Flow.State), st.isTerminal = false →
      Flow.Told ((Flow.run tool st).exchanges host s) ((Flow.run tool st).run host s).result) ∧
    (∀ (service : Service) command arguments,
      Flow.Told ((service.executeCommand command arguments).exchanges host s)
        ((service.executeCommand command arguments).run host s).result) ∧
    (∀ (service : Service) ds,
      Flow.Told ((service.resolve ds).exchanges host s) ((service.resolve ds).run host s).result) :=
  ⟨fun tool _ hst => Flow.told_run tool host hst s,
    fun service command arguments => service.told_executeCommand command arguments host s,
    fun service _ => Flow.told_run service.configuration.tool host rfl s⟩

/-- A registry that does not answer is reported once, with what went wrong. -/
theorem told_once_of_unreachable_registry :
    let host : Host Unit := {
      search := fun _ s => (.error (.transport "timed out"), s)
      findProjects := fun s => (.ok [], s)
      prompt := fun _ _ s => (none, s)
      notify := fun _ s => s
      launch := fun _ s => (.ok (), s) }
    let d := Flow.run "dotnet" (.searching "X")
    Flow.Told (d.exchanges host ()) (d.run host ()).result ∧
      (d.run host ()).result = .aborted .searchFailed ∧
      errorTexts (d.run host ()).calls =
        ["Failed to search for packages: HTTP error: timed out"] := by
  intro host d
  exact ⟨(told_once host ()).1 "dotnet" (.searching "X") rfl, rfl, by decide⟩

end Remedy
