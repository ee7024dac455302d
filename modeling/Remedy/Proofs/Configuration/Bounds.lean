import Remedy.Configuration
import Remedy.Json.Reader

namespace Remedy

namespace Registry

/-- The numbers of candidates at which settings may cap. -/
def IsCap (n : Nat) : Prop := 1 ≤ n ∧ n ≤ 5

theorem isCap_clampCap (n : Nat) : IsCap (clampCap n) := ⟨one_le_clampCap n, clampCap_le n⟩

theorem isCap_maxCandidates : IsCap maxCandidates := ⟨by decide, by decide⟩

namespace Settings

theorem isCap_capOf (env : Environment) : IsCap (capOf env) := by
  rw [capOf]
  split
  · exact isCap_clampCap _
  · exact isCap_maxCandidates

def ofText? (text : String) : Option Settings := (Json.ofText? text).bind ofJson?

/-- A way to make settings: where they come from, and what is set in them one after another. -/
inductive Recipe where
  | ofEnvironment (env : Environment)
  | ofUrl (registryUrl : String)
  | ofText (text : String)
  | withMaxResults (r : Recipe) (n : Nat)
  | withTimeoutSecs (r : Recipe) (n : Nat)

namespace Recipe

/-- The settings that are made, if the text is one of settings. -/
def make? : Recipe → Option Settings
  | .ofEnvironment env => some (.ofEnvironment env)
  | .ofUrl registryUrl => some (.ofUrl registryUrl)
  | .ofText text => ofText? text
  | .withMaxResults r n => r.make?.map (·.withMaxResults n)
  | .withTimeoutSecs r n => r.make?.map (·.withTimeoutSecs n)

/-- The cap that was read from a text, if none was set after it. -/
def readCap? : Recipe → Option Nat
  | .ofText text => (ofText? text).map (·.maxResults)
  | .withTimeoutSecs r _ => r.readCap?
  | .ofEnvironment _ | .ofUrl _ | .withMaxResults .. => none

variable {r : Recipe} {s : Settings}

theorem readCap?_eq_or_isCap (h : r.make? = some s) :
    r.readCap? = some s.maxResults ∨ r.readCap? = none ∧ IsCap s.maxResults := by
  induction r generalizing s with
  | ofEnvironment env =>
    cases h
    exact .inr ⟨rfl, isCap_capOf env⟩
  | ofUrl registryUrl =>
    cases h
    exact .inr ⟨rfl, isCap_maxCandidates⟩
  | ofText text => exact .inl (congrArg (Option.map Settings.maxResults) h)
  | withMaxResults r n =>
    obtain ⟨s, -, rfl⟩ := Option.map_eq_some_iff.1 h
    exact .inr ⟨rfl, isCap_clampCap n⟩
  | withTimeoutSecs r n ih =>
    obtain ⟨s, hs, rfl⟩ := Option.map_eq_some_iff.1 h
    exact (ih hs :)

end Recipe

end Settings

end Registry

open Registry (IsCap)

namespace Configuration

def IsBareExtension (extension : String) : Prop := extension.toList.head? ≠ some '.'

instance : DecidablePred IsBareExtension := fun extension =>
  inferInstanceAs (Decidable (extension.toList.head? ≠ some '.'))

theorem isBareExtension_ofEnvironment (env : Environment) :
    IsBareExtension (ofEnvironment env).manifestExtension := by
  simp only [ofEnvironment]
  cases env.manifestExtension with
  | none =>
    rw [Option.map_none, Option.getD_none]
    decide
  | some extension => exact Workspace.head?_dropLeadingDots extension

def ofText? (text : String) : Option Configuration := (Json.ofText? text).bind ofJson?

inductive Recipe where
  | ofEnvironment (env : Environment)
  | ofText (text : String)
  | withTool (r : Recipe) (tool : String)
  | withManifestExtension (r : Recipe) (extension : String)
  | withSearch (r : Recipe) (search : Registry.Settings.Recipe)

namespace Recipe

def make? : Recipe → Option Configuration
  | .ofEnvironment env => some (.ofEnvironment env)
  | .ofText text => ofText? text
  | .withTool r tool => r.make?.map (·.withTool tool)
  | .withManifestExtension r extension => r.make?.map (·.withManifestExtension extension)
  | .withSearch r search => r.make?.bind fun c => search.make?.map c.withSearch

def readCap? : Recipe → Option Nat
  | .ofEnvironment _ => none
  | .ofText text => (ofText? text).map (·.search.maxResults)
  | .withTool r _ | .withManifestExtension r _ => r.readCap?
  | .withSearch _ search => search.readCap?

def readExtension? : Recipe → Option String
  | .ofText text => (ofText? text).map (·.manifestExtension)
  | .withTool r _ | .withSearch r _ => r.readExtension?
  | .ofEnvironment _ | .withManifestExtension .. => none

variable {r : Recipe} {c : Configuration}

theorem readCap?_eq_or_isCap (h : r.make? = some c) :
    r.readCap? = some c.search.maxResults ∨ r.readCap? = none ∧ IsCap c.search.maxResults := by
  induction r generalizing c with
  | ofEnvironment env =>
    cases h
    exact .inr ⟨rfl, Registry.Settings.isCap_capOf env⟩
  | ofText text =>
    have hcap := congrArg (Option.map fun c : Configuration => c.search.maxResults) h
    exact .inl hcap
  | withTool r tool ih | withManifestExtension r extension ih =>
    obtain ⟨c, hc, rfl⟩ := Option.map_eq_some_iff.1 h
    exact (ih hc :)
  | withSearch r search =>
    obtain ⟨c, -, h⟩ := Option.bind_eq_some_iff.1 h
    obtain ⟨s, hs, rfl⟩ := Option.map_eq_some_iff.1 h
    exact search.readCap?_eq_or_isCap hs

theorem readExtension?_eq_or_isBareExtension (h : r.make? = some c) :
    r.readExtension? = some c.manifestExtension ∨
      r.readExtension? = none ∧ IsBareExtension c.manifestExtension := by
  induction r generalizing c with
  | ofEnvironment env =>
    cases h
    exact .inr ⟨rfl, isBareExtension_ofEnvironment env⟩
  | ofText text => exact .inl (congrArg (Option.map manifestExtension) h)
  | withManifestExtension r extension =>
    obtain ⟨c, -, rfl⟩ := Option.map_eq_some_iff.1 h
    exact .inr ⟨rfl, Workspace.head?_dropLeadingDots extension⟩
  | withTool r tool ih =>
    obtain ⟨c, hc, rfl⟩ := Option.map_eq_some_iff.1 h
    exact (ih hc :)
  | withSearch r search ih =>
    obtain ⟨c, hc, h⟩ := Option.bind_eq_some_iff.1 h
    obtain ⟨s, -, rfl⟩ := Option.map_eq_some_iff.1 h
    exact (ih hc :)

end Recipe

/-- A value is in bounds unless it was read out of bounds, if all that is not read is in bounds. -/
theorem bounded_iff {P : α → Prop} {read? : Option α}
    (h : read? = some a ∨ read? = none ∧ P a) :
    (∀ b, read? = some b → a = b) ∧ (P a ↔ ∀ b, read? = some b → P b) := by
  obtain rfl | ⟨rfl, ha⟩ := h
  · simp
  · simp [ha]

/-- A configuration keeps to the bounds, however it is made, unless it still has a cap or an
extension out of bounds from the text of a configuration or of settings. -/
theorem bounded_iff_read_bounded {r : Recipe} (h : r.make? = some c) :
    (∀ n, r.readCap? = some n → c.search.maxResults = n) ∧
      (1 ≤ c.search.maxResults ∧ c.search.maxResults ≤ 5 ↔
        ∀ n, r.readCap? = some n → 1 ≤ n ∧ n ≤ 5) ∧
      (∀ e, r.readExtension? = some e → c.manifestExtension = e) ∧
      (c.manifestExtension.toList.head? ≠ some '.' ↔
        ∀ e, r.readExtension? = some e → e.toList.head? ≠ some '.') := by
  obtain ⟨hcap, hcapBounded⟩ := bounded_iff (Recipe.readCap?_eq_or_isCap h)
  obtain ⟨hextension, hextensionBare⟩ :=
    bounded_iff (Recipe.readExtension?_eq_or_isBareExtension h)
  exact ⟨hcap, hcapBounded, hextension, hextensionBare⟩

/-- A configuration with a cap and an extension out of bounds, as a text. -/
def unboundedText : String :=
  "\x7b\"language_id\":\"csharp\",\"tool\":\"dotnet\",\"manifest_extension\":\".csproj\"," ++
    "\"search\":\x7b\"registry_url\":\"u\",\"max_results\":50," ++
    "\"user_agent\":\"a\",\"timeout_secs\":15\x7d\x7d"

theorem ofText?_unboundedText :
    ofText? unboundedText = some ⟨"csharp", "dotnet", ".csproj", ⟨"u", 50, "a", 15⟩⟩ := by
  decide +kernel

/-- Of the text, the tool is set and then the extension. -/
theorem bounded_iff_read_bounded_of_text :
    let taken := Recipe.withTool (.ofText unboundedText) "t"
    let mended := Recipe.withManifestExtension taken "..fsproj"
    ∃ c c', taken.make? = some c ∧ mended.make? = some c' ∧
      ¬(1 ≤ c.search.maxResults ∧ c.search.maxResults ≤ 5) ∧
      c.manifestExtension.toList.head? = some '.' ∧
      c'.search.maxResults = 50 ∧ c'.manifestExtension.toList.head? ≠ some '.' := by
  intro taken mended
  have hcap : taken.readCap? = some 50 := by
    simp only [taken, Recipe.readCap?, ofText?_unboundedText, Option.map_some]
  have hextension : taken.readExtension? = some ".csproj" := by
    simp only [taken, Recipe.readExtension?, ofText?_unboundedText, Option.map_some]
  obtain ⟨c, hc⟩ : ∃ c, taken.make? = some c := by
    simp only [taken, Recipe.make?, ofText?_unboundedText, Option.map_some, Option.some.injEq,
      exists_eq']
  have hc' : mended.make? = some (c.withManifestExtension "..fsproj") := by
    rw [Recipe.make?, hc, Option.map_some]
  obtain ⟨hfifty, hbounds, hdotted, -⟩ := bounded_iff_read_bounded hc
  obtain ⟨hfifty', -, -, hbare⟩ := bounded_iff_read_bounded hc'
  refine ⟨c, _, hc, hc', fun h => ?_, ?_, hfifty' 50 hcap, hbare.2 ?_⟩
  · exact absurd (hbounds.1 h 50 hcap).2 (by decide)
  · rw [hdotted _ hextension]
    decide
  · intro e he
    cases he

end Configuration

end Remedy
