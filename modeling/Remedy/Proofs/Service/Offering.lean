import Remedy.Proofs.Diagnostic.Match
import Remedy.Service

namespace Remedy

open Diagnostic (IsFirstUnresolved Quotes)

variable {ds : List Diagnostic}

namespace Diagnostic

theorem extractSymbol?_eq_none_iff {message : String} :
    extractSymbol? message = none ↔ ∀ symbol, ¬Quotes message symbol := by
  simp only [Option.eq_none_iff_forall_ne_some, ne_eq, extractSymbol?_eq_some_iff]

theorem match?_eq_some_iff {r : Remediable} :
    match? ds = some r ↔
      ∃ d, IsFirstUnresolved ds r.index d ∧ Quotes d.message r.symbol ∧ r.range = d.range := by
  simp only [match?, Option.bind_eq_bind, Option.bind_eq_some_iff, Prod.exists,
    firstUnresolved?_eq_some_iff, extractSymbol?_eq_some_iff]
  constructor
  · rintro ⟨index, d, hd, symbol, hsymbol, h⟩
    cases h
    exact ⟨d, hd, hsymbol, rfl⟩
  · obtain ⟨symbol, index, range⟩ := r
    rintro ⟨d, hd, hsymbol, rfl⟩
    exact ⟨index, d, hd, symbol, hsymbol, rfl⟩

end Diagnostic

namespace Flow

theorem matchSymbol_eq_ok_iff {symbol : String} :
    matchSymbol ds = .ok symbol ↔
      ∃ index d, IsFirstUnresolved ds index d ∧ Quotes d.message symbol := by
  simp only [← Diagnostic.firstUnresolved?_eq_some_iff, ← Diagnostic.extractSymbol?_eq_some_iff]
  rw [matchSymbol]
  cases Diagnostic.firstUnresolved? ds with
  | none => simp
  | some found =>
    obtain ⟨index, d⟩ := found
    cases hx : Diagnostic.extractSymbol? d.message <;> simp [hx, and_assoc]

theorem matchSymbol_eq_noUnresolved_iff :
    matchSymbol ds = .error .noUnresolvedDiagnostic ↔ ∀ d ∈ ds, d.code ≠ .unresolved := by
  rw [← Diagnostic.firstUnresolved?_eq_none_iff, matchSymbol]
  cases Diagnostic.firstUnresolved? ds with
  | none => simp
  | some found =>
    obtain ⟨index, d⟩ := found
    cases hx : Diagnostic.extractSymbol? d.message <;> simp [hx]

theorem matchSymbol_eq_notExtractable_iff :
    matchSymbol ds = .error .symbolNotExtractable ↔
      ∃ index d, IsFirstUnresolved ds index d ∧ ∀ symbol, ¬Quotes d.message symbol := by
  simp only [← Diagnostic.firstUnresolved?_eq_some_iff, ← Diagnostic.extractSymbol?_eq_none_iff]
  rw [matchSymbol]
  cases Diagnostic.firstUnresolved? ds with
  | none => simp
  | some found =>
    obtain ⟨index, d⟩ := found
    cases hx : Diagnostic.extractSymbol? d.message <;> simp [hx, and_assoc]

end Flow

namespace Service

theorem codeActions_eq {s : Service} (hs : s.isActive = true) (ds : List Diagnostic) :
    s.codeActions s.configuration.languageId ds =
      ((Diagnostic.match? ds).map (·.toCodeAction)).toList := if_pos ⟨hs, rfl⟩

/-- A set of diagnostics has a remedy if the message of its first unresolved diagnostic quotes a
symbol. Then one action is offered for that symbol, and a flow goes on to search for it; else no
action is offered, and the flow ends, with the reason that no diagnostic is unresolved or that the
first such one quotes no symbol. -/
theorem remedy_offered_iff {s : Service} (hs : s.isActive = true) (tool : String)
    (ds : List Diagnostic) :
    let actions := s.codeActions s.configuration.languageId ds
    let next := Flow.State.step tool (.matchingDiagnostic ds)
    (∀ r, Diagnostic.match? ds = some r ↔
        ∃ d, IsFirstUnresolved ds r.index d ∧ Quotes d.message r.symbol ∧ r.range = d.range) ∧
      (∀ r, Diagnostic.match? ds = some r →
        next = .done (.searching r.symbol) ∧
          ∃ a, actions = [a] ∧
            a.title = "Search for NuGet package to resolve '" ++ r.symbol ++ "'" ∧
            a.command.arguments = [.string r.symbol]) ∧
      (Diagnostic.match? ds = none → actions = [] ∧ ∀ symbol, next ≠ .done (.searching symbol)) ∧
      (next = .done (.aborted .noUnresolvedDiagnostic) ↔ ∀ d ∈ ds, d.code ≠ .unresolved) ∧
      (next = .done (.aborted .symbolNotExtractable) ↔
        ∃ index d, IsFirstUnresolved ds index d ∧ ∀ symbol, ¬Quotes d.message symbol) := by
  intro actions next
  have hactions : actions = ((Diagnostic.match? ds).map (·.toCodeAction)).toList :=
    codeActions_eq hs ds
  have hnext : next = .done (Flow.State.afterStage .searching (Flow.matchSymbol ds)) := rfl
  have hsearching (symbol : String) :
      next = .done (.searching symbol) ↔ Flow.matchSymbol ds = .ok symbol := by
    rw [hnext]
    cases Flow.matchSymbol ds <;> simp [Flow.State.afterStage]
  have haborted (reason : Flow.AbortReason) :
      next = .done (.aborted reason) ↔ Flow.matchSymbol ds = .error reason := by
    rw [hnext]
    cases Flow.matchSymbol ds <;> simp [Flow.State.afterStage]
  refine ⟨fun _ => Diagnostic.match?_eq_some_iff, fun r hr => ⟨?_, ?_⟩, fun hnone => ⟨?_, ?_⟩,
    (haborted _).trans Flow.matchSymbol_eq_noUnresolved_iff,
    (haborted _).trans Flow.matchSymbol_eq_notExtractable_iff⟩
  · obtain ⟨d, hd, hsymbol, -⟩ := Diagnostic.match?_eq_some_iff.1 hr
    exact (hsearching r.symbol).2 (Flow.matchSymbol_eq_ok_iff.2 ⟨r.index, d, hd, hsymbol⟩)
  · exact ⟨r.toCodeAction, by rw [hactions, hr]; rfl, rfl, rfl⟩
  · rw [hactions, hnone]
    rfl
  · intro symbol hsymbol
    obtain ⟨index, d, hd, hquotes⟩ := Flow.matchSymbol_eq_ok_iff.1 ((hsearching symbol).1 hsymbol)
    have hsome : Diagnostic.match? ds = some ⟨symbol, index, d.range⟩ :=
      Diagnostic.match?_eq_some_iff.2 ⟨d, hd, hquotes, rfl⟩
    rw [hnone] at hsome
    cases hsome

/-- The second diagnostic quotes nothing, so that the third, which quotes a name, has no remedy. -/
theorem remedy_offered_iff_of_unquoted :
    let s := activate (.ofEnvironment {})
    let ds : List Diagnostic := [{ code := .other "CS1002", message := "'x'" },
      { code := .unresolved, message := "empty '' quotes" },
      { code := .unresolved, message := "the name 'A' could not be found" }]
    s.isActive = true ∧ Diagnostic.match? ds = none ∧ s.codeActions "csharp" ds = [] ∧
      Flow.State.step "dotnet" (.matchingDiagnostic ds) =
        .done (.aborted .symbolNotExtractable) := by
  intro s ds
  have hactive : s.isActive = true := rfl
  have hfirst := Diagnostic.firstUnresolved?_eq_some_iff.1
    (rfl : Diagnostic.firstUnresolved? ds = some (1, ds[1]))
  have hunquoted := Diagnostic.extractSymbol?_eq_none_iff.1
    (by decide : Diagnostic.extractSymbol? "empty '' quotes" = none)
  have hnone : Diagnostic.match? ds = none := rfl
  obtain ⟨-, -, hoffer, -, haborted⟩ := remedy_offered_iff hactive "dotnet" ds
  exact ⟨hactive, hnone, (hoffer hnone).1, haborted.2 ⟨1, ds[1], hfirst, hunquoted⟩⟩

end Service

end Remedy
