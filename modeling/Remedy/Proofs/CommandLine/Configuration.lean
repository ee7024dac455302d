import Remedy.CommandLine.Program
import Remedy.Proofs.CommandLine.Arguments

namespace Remedy.CommandLine

open Environment (word64?)
open Registry (clampCap maxCandidates)

/-- Where no variable is set, a run with these arguments knows of no registry, cap, tool or
extension: no option gives one. -/
def LeaveConfiguration (args : List String) : Prop :=
  ∀ a, parse {} args = .ok a →
    a.registryUrl = none ∧ a.maxResults = none ∧ a.tool = none ∧ a.manifestExtension = none

variable {env : Environment} {args : List String} {i : Invocation} {a : Arguments}

theorem parse_of_asks (h : Asks args i) : parse {} args = .ok (i.arguments {}) :=
  parse_eq_ok_iff.2 ⟨i, h, rfl, rfl⟩

theorem Asks.areValues (h : Asks args i) : AreValues i.given := by
  obtain ⟨hroot, -, hsub, -, -⟩ := h
  exact List.forall_mem_append.2 ⟨areValues_level hsub, areValues_level hroot⟩

theorem AreValues.isSome_word64? {given : Given} (h : AreValues given)
    (hn : given.lookup .maxResults = some n) : (word64? n).isSome = true := by
  obtain ⟨before, after, rfl, -⟩ := List.lookup_eq_some_iff.1 hn
  exact h (.maxResults, n) (by simp)

/-- The run is given nothing of the configuration. -/
structure Invocation.IsOpen (i : Invocation) : Prop where
  registryUrl : i.given.lookup .registryUrl = none
  maxResults : i.given.lookup .maxResults = none
  tool : i.given.lookup .tool = none
  manifestExtension : i.given.lookup .manifestExtension = none

theorem LeaveConfiguration.isOpen (h : LeaveConfiguration args) (hi : Asks args i) : i.IsOpen := by
  obtain ⟨hurl, hmax, htool, hextension⟩ := h _ (parse_of_asks hi)
  simp only [Invocation.arguments, Option.or_none] at hurl hmax htool hextension
  refine ⟨hurl, ?_, htool, hextension⟩
  -- a cap that was given would be a number
  cases hn : i.given.lookup .maxResults with
  | none => rfl
  | some n =>
    have hnumber := hi.areValues.isSome_word64? hn
    rw [hn, Option.bind_some] at hmax
    rw [hmax] at hnumber
    cases hnumber

theorem Invocation.IsOpen.refusesEnvironment_eq (h : i.IsOpen) (env : Environment) :
    refusesEnvironment env i.root i.sub = env.maxResults.any fun n => (word64? n).isNone := by
  have hmax := h.maxResults
  rw [Invocation.given, List.lookup_append, Option.or_eq_none_iff] at hmax
  simp [refusesEnvironment, hmax.2]

section Configuration

variable (hurl : a.registryUrl = env.searchUrl)
  (hmax : a.maxResults = env.maxResults.bind word64?)
  (htool : a.tool = env.tool) (hextension : a.manifestExtension = env.manifestExtension)

include hurl hmax in
theorem search_eq :
    a.search env =
      { Registry.Settings.ofEnvironment env with
        maxResults := (env.maxResults.bind word64?).elim maxCandidates clampCap } := by
  rw [Arguments.search, hurl, hmax]
  cases hsearch : env.searchUrl <;> cases hcap : env.maxResults.bind word64? <;>
    simp [Registry.Settings.ofEnvironment, Registry.Settings.ofUrl, Registry.Settings.capOf,
      Registry.Settings.withMaxResults, hsearch, hcap]

include hurl hmax htool hextension in
theorem configuration_eq :
    a.configuration env =
      (Configuration.ofEnvironment env).withSearch
        { Registry.Settings.ofEnvironment env with
          maxResults := (env.maxResults.bind word64?).elim maxCandidates clampCap } := by
  rw [Arguments.configuration, search_eq hurl hmax, htool, hextension]
  cases ht : env.tool <;> cases he : env.manifestExtension <;>
    simp [Configuration.ofEnvironment, Configuration.withSearch, Configuration.withTool,
      Configuration.withManifestExtension, ht, he]

end Configuration

/-- The caps that the program and the library take from the environment. -/
theorem capOf_eq_iff (env : Environment) :
    (env.maxResults.bind word64?).elim maxCandidates clampCap = Registry.Settings.capOf env ↔
      env.maxResults.bind word64? ≠ some 0 := by
  rw [Registry.Settings.capOf]
  cases env.maxResults.bind word64? with
  | none => simp
  | some n =>
    cases n with
    | zero => simp [clampCap, maxCandidates]
    | succ n => simp

theorem configuration_of_leaveConfiguration (h : LeaveConfiguration args)
    (ha : parse env args = .ok a) :
    a.configuration env =
      (Configuration.ofEnvironment env).withSearch
        { Registry.Settings.ofEnvironment env with
          maxResults := (env.maxResults.bind word64?).elim maxCandidates clampCap } := by
  obtain ⟨i, hi, -, rfl⟩ := parse_eq_ok_iff.1 ha
  have hopen := h.isOpen hi
  refine configuration_eq ?_ ?_ ?_ ?_
  · rw [Invocation.arguments, hopen.registryUrl, Option.none_or]
  · rw [Invocation.arguments, hopen.maxResults, Option.none_or]
  · rw [Invocation.arguments, hopen.tool, Option.none_or]
  · rw [Invocation.arguments, hopen.manifestExtension, Option.none_or]

/-- Without an option for the configuration, the program starts if the cap of the environment is a
number, and its configuration is the one that a library reads there unless the cap is zero. Then it
offers one candidate where the library offers five. -/
theorem configuration_agrees_iff (h : LeaveConfiguration args) (env : Environment) :
    ((∃ a, parse env args = .ok a) ↔
        (∃ a, parse {} args = .ok a) ∧
          ∀ n, env.maxResults = some n → (word64? n).isSome = true) ∧
      ∀ a, parse env args = .ok a →
        (a.configuration env = .ofEnvironment env ↔ env.maxResults.bind word64? ≠ some 0) ∧
        (env.maxResults.bind word64? = some 0 →
          a.configuration env = (Configuration.ofEnvironment env).withSearch
              { Registry.Settings.ofEnvironment env with maxResults := 1 } ∧
            (Configuration.ofEnvironment env).search.maxResults = 5) := by
  refine ⟨⟨?starts, ?started⟩, fun a ha => ⟨?agrees, fun hzero => ⟨?program, ?library⟩⟩⟩
  case starts =>
    rintro ⟨a, ha⟩
    obtain ⟨i, hi, hrefuses, rfl⟩ := parse_eq_ok_iff.1 ha
    refine ⟨⟨_, parse_of_asks hi⟩, fun n hn => ?_⟩
    rw [(h.isOpen hi).refusesEnvironment_eq, hn, Option.any_some] at hrefuses
    rwa [← Option.not_isNone, Bool.not_eq_true']
  case started =>
    rintro ⟨⟨a, ha⟩, hnumber⟩
    obtain ⟨i, hi, -, rfl⟩ := parse_eq_ok_iff.1 ha
    refine ⟨_, parse_eq_ok_iff.2 ⟨i, hi, ?_, rfl⟩⟩
    rw [(h.isOpen hi).refusesEnvironment_eq]
    cases hn : env.maxResults with
    | none => rfl
    | some n => simpa using hnumber n hn
  case agrees =>
    rw [configuration_of_leaveConfiguration h ha, ← capOf_eq_iff]
    constructor
    · exact fun heq => congrArg (fun c : Configuration => c.search.maxResults) heq
    · intro heq
      rw [heq]
      rfl
  case program =>
    rw [configuration_of_leaveConfiguration h ha, hzero]
    rfl
  case library =>
    rw [Configuration.ofEnvironment, Registry.Settings.ofEnvironment, Registry.Settings.capOf, hzero]
    rfl

/-- With a cap of zero and a registry in the environment, the projects are listed under a
configuration that is not the library's. -/
theorem configuration_agrees_iff_of_zero :
    let env : Environment := { searchUrl := some "http://r", maxResults := some "0" }
    LeaveConfiguration ["projects"] ∧
      ∃ a, parse env ["projects"] = .ok a ∧ a.configuration env ≠ .ofEnvironment env ∧
        (a.configuration env).search.maxResults = 1 ∧
        (Configuration.ofEnvironment env).search.maxResults = 5 := by
  intro env
  have hparse : parse {} ["projects"] =
      .ok ⟨".", none, none, none, none, false, .projects, "", "csharp", ""⟩ := rfl
  have hleave : LeaveConfiguration ["projects"] := by
    intro a ha
    cases hparse.symm.trans ha
    exact ⟨rfl, rfl, rfl, rfl⟩
  have hzero : env.maxResults.bind word64? = some 0 := by decide
  obtain ⟨hstarts, hagrees⟩ := configuration_agrees_iff hleave env
  obtain ⟨a, ha⟩ := hstarts.2 ⟨⟨_, hparse⟩, fun n hn => by cases hn; decide⟩
  obtain ⟨hiff, hcaps⟩ := hagrees a ha
  obtain ⟨hprogram, hlibrary⟩ := hcaps hzero
  refine ⟨hleave, a, ha, fun heq => hiff.1 heq hzero, ?_, hlibrary⟩
  rw [hprogram]
  rfl

end Remedy.CommandLine
