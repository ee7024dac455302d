import Remedy.Proofs.Flow.Transition

namespace Remedy.Flow

open Registry (Candidate)

/-- A package prompt was answered with `packageId`, which it offered. -/
def PackageChosen (before : List Exchange) (packageId : String) : Prop :=
  ∃ items, .prompt items packagePlaceholder (some packageId) ∈ before ∧ packageId ∈ items

/-- The project was found, and was the only one or was picked among those found. -/
def ProjectChosen (before : List Exchange) (project : ManifestPath) : Prop :=
  ∃ projects, .findProjects (.ok projects) ∈ before ∧ project ∈ projects ∧
    (projects = [project] ∨
      .prompt (projects.map (·.text)) projectPlaceholder (some project.text) ∈ before)

/-- What the exchanges before an exchange have to contain. -/
def Warranted (tool : String) (before : List Exchange) : Exchange → Prop
  | .search .. | .notify _ => True
  | .findProjects _ => ∃ packageId, PackageChosen before packageId
  | .prompt items placeholder _ =>
    items ≠ [] ∧ (placeholder = projectPlaceholder →
      2 ≤ items.length ∧ (∃ packageId, PackageChosen before packageId) ∧
        ∃ projects : List ManifestPath, .findProjects (.ok projects) ∈ before ∧
          items = projects.map (·.text))
  | .launch task _ => ∃ packageId project, PackageChosen before packageId ∧
      ProjectChosen before project ∧ task = (InstallCommand.of tool packageId project).toTask

def AllWarranted (tool : String) (before : List Exchange) : List Exchange → Prop
  | [] => True
  | e :: es => Warranted tool before e ∧ AllWarranted tool (before ++ [e]) es

theorem allWarranted_append : AllWarranted tool before (es ++ es') ↔
    AllWarranted tool before es ∧ AllWarranted tool (before ++ es) es' := by
  induction es generalizing before with
  | nil => simp [AllWarranted]
  | cons e es ih => simp [AllWarranted, ih, and_assoc]

theorem AllWarranted.at (h : AllWarranted tool before (es ++ e :: es')) :
    Warranted tool (before ++ es) e :=
  (allWarranted_append.1 h).2.1

/-- The data that a state carries come from the exchanges before it. -/
def State.Sourced (before : List Exchange) : State → Prop
  | .matchingDiagnostic _ | .searching _ | .awaitingPackagePick _ | .ended _ => True
  | .locatingProjects packageId => PackageChosen before packageId
  | .awaitingProjectPick packageId projects =>
    PackageChosen before packageId ∧ .findProjects (.ok projects) ∈ before ∧ 2 ≤ projects.length
  | .installing packageId project => PackageChosen before packageId ∧ ProjectChosen before project

theorem State.sourced_of_rank_le_two {st : State} (h : st.rank ≤ 2) (before : List Exchange) :
    st.Sourced before := by
  cases st with
  | matchingDiagnostic | searching | awaitingPackagePick | ended => trivial
  | locatingProjects | awaitingProjectPick | installing => simp [rank] at h

theorem PackageChosen.append (h : PackageChosen before packageId) (es : List Exchange) :
    PackageChosen (before ++ es) packageId := by
  obtain ⟨items, hp, hi⟩ := h
  exact ⟨items, List.mem_append_left es hp, hi⟩

theorem ProjectChosen.append (h : ProjectChosen before project) (es : List Exchange) :
    ProjectChosen (before ++ es) project := by
  obtain ⟨projects, hf, hp, hc⟩ := h
  exact ⟨projects, List.mem_append_left es hf, hp, hc.imp_right (List.mem_append_left es)⟩

theorem placeholders_ne : packagePlaceholder ≠ projectPlaceholder := by decide

theorem warranted_packagePrompt {candidates : List Candidate} (h : candidates ≠ [])
    (answer : Option String) :
    Warranted tool before (.prompt (candidates.map (·.id)) packagePlaceholder answer) :=
  ⟨by simpa using h, fun he => absurd he placeholders_ne⟩

theorem warranted_projectPrompt
    (h : (State.awaitingProjectPick packageId projects).Sourced before) (answer : Option String) :
    Warranted tool before (.prompt (projects.map (·.text)) projectPlaceholder answer) := by
  obtain ⟨hid, hf, hl⟩ := h
  refine ⟨?_, fun _ => ⟨by simpa using hl, ⟨_, hid⟩, projects, hf, rfl⟩⟩
  rintro he
  rw [List.map_eq_nil_iff.1 he] at hl
  simp at hl

/-- A step keeps the data of the state sourced, and this warrants its exchanges. -/
theorem Transition.warranted (h : Transition tool st es st') (hs : st.Sourced before) :
    AllWarranted tool before es ∧ st'.Sourced (before ++ es) := by
  cases h with
  | unmatched | matched | searchFailed | nothingFound | found | nothingOffered =>
    simp [AllWarranted, Warranted, State.Sourced]
  | packageDismissed hne | packageUnknown hne =>
    exact ⟨⟨warranted_packagePrompt hne _, trivial⟩, trivial⟩
  | packagePicked hx =>
    refine ⟨⟨warranted_packagePrompt ?_ _, trivial⟩, _, by simp, hx⟩
    rintro rfl
    cases hx
  | lookupFailed | noProjects => exact ⟨⟨⟨_, hs⟩, trivial, trivial⟩, trivial⟩
  | oneProject => exact ⟨⟨⟨_, hs⟩, trivial⟩, hs.append _, _, by simp, by simp, .inl rfl⟩
  | severalProjects hl => exact ⟨⟨⟨_, hs⟩, trivial⟩, hs.append _, by simp, hl⟩
  | projectDismissed | projectUnknown =>
    exact ⟨⟨warranted_projectPrompt hs _, trivial⟩, trivial⟩
  | projectPicked hp =>
    have ⟨hid, hf, _⟩ := hs
    exact ⟨⟨warranted_projectPrompt hs _, trivial⟩, hid.append _, _,
      List.mem_append_left _ hf, hp, .inr (by simp)⟩
  | refused | launched =>
    obtain ⟨hid, hp⟩ := hs
    exact ⟨⟨trivial, ⟨_, _, hid.append _, hp.append _, rfl⟩, trivial⟩, trivial⟩

/-- Every exchange on the way to the end is warranted by those before it. -/
theorem Course.warranted (h : Course tool st es outcome) (hs : st.Sourced before) :
    AllWarranted tool before es := by
  induction h generalizing before with
  | ended => trivial
  | step ht _ ih =>
    obtain ⟨hw, hs'⟩ := ht.warranted hs
    exact allWarranted_append.2 ⟨hw, ih hs'⟩

end Remedy.Flow
