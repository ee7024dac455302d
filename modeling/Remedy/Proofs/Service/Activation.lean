import Remedy.Proofs.Flow.Transition
import Remedy.Service

namespace Remedy

/-- What the registry is asked for. -/
def queries (calls : List Call) : List String :=
  calls.filterMap fun
    | .search query => some query
    | _ => none

namespace Flow

def State.query? : State → Option String
  | .matchingDiagnostic ds => (matchSymbol ds).toOption
  | .searching query => some query
  | _ => none

theorem Transition.queries_append (h : Transition tool st es st') :
    queries (es.map Exchange.call) ++ st'.query?.toList = st.query?.toList := by
  cases h with
  | unmatched h | matched h => simp [queries, State.query?, h, Except.toOption]
  | _ => rfl

theorem Course.queries_eq (h : Course tool st es outcome) :
    queries (es.map Exchange.call) = st.query?.toList := by
  induction h with
  | ended => rfl
  | step ht _ ih =>
    rw [← ht.queries_append, ← ih]
    simp only [queries, List.map_append, List.filterMap_append]

/-- A run asks the registry at most once, and for nothing but the symbol it starts with. -/
theorem queries_run (tool : String) (host : Host σ) (st : State) (s : σ) :
    queries ((run tool st).run host s).calls = st.query?.toList := by
  rw [Dialogue.calls_run]
  exact (course_run tool host st s).queries_eq

end Flow

namespace Diagnostic

theorem quoted?_ne_nil (h : quoted? cs = some symbol) : symbol ≠ [] := by
  rw [quoted?] at h
  split at h
  · cases h
  · split at h
    · cases h
    · next hne =>
      cases h
      exact hne

theorem extractSymbol?_ne_empty {text : String} (h : extractSymbol? text = some symbol) :
    symbol ≠ "" := by
  obtain ⟨cs, hq, rfl⟩ := Option.map_eq_some_iff.1 h
  simpa using quoted?_ne_nil hq

/-- The matcher and the first stage of a flow extract the same symbol. -/
theorem matchSymbol_of_match? (h : match? ds = some r) :
    Flow.matchSymbol ds = .ok r.symbol ∧ r.symbol ≠ "" := by
  rw [match?] at h
  cases hf : firstUnresolved? ds with
  | none => simp [hf] at h
  | some found =>
    obtain ⟨index, d⟩ := found
    cases hx : extractSymbol? d.message with
    | none => simp [hf, hx] at h
    | some symbol =>
      simp only [hf, hx, Option.bind_eq_bind, Option.bind_some, Option.pure_def,
        Option.some.injEq] at h
      subst h
      exact ⟨by simp [Flow.matchSymbol, hf, hx], extractSymbol?_ne_empty hx⟩

end Diagnostic

namespace Service

theorem of_mem_codeActions {s : Service} (h : a ∈ s.codeActions languageId ds) :
    s.isActive = true ∧ a.command.command = searchCommand ∧
      ∃ symbol, a.command.arguments = [.string symbol] ∧ Flow.matchSymbol ds = .ok symbol ∧
        symbol ≠ "" := by
  rw [codeActions] at h
  split at h
  · next hs =>
    obtain ⟨r, hr, rfl⟩ := Option.map_eq_some_iff.1 (Option.mem_toList.1 h)
    exact ⟨hs.1, rfl, r.symbol, rfl, Diagnostic.matchSymbol_of_match? hr⟩
  · cases h

theorem symbolOf?_string (symbol : String) (arguments : List Json) :
    symbolOf? (.string symbol :: arguments) =
      if Text.trim symbol = "" then none else some (Text.trim symbol) := by
  dsimp only [symbolOf?, List.head?_cons, Option.bind_eq_bind, Option.bind_some, Json.string?,
    Option.pure_def]
  by_cases ht : Text.trim symbol = ""
  · have hg : (guard (Text.trim symbol ≠ "") : Option Unit) = none := if_neg (not_not_intro ht)
    rw [hg, if_pos ht, Option.bind_none]
  · have hg : (guard (Text.trim symbol ≠ "") : Option Unit) = some () := if_pos ht
    rw [hg, if_neg ht, Option.bind_some]

theorem executeCommand_search {s : Service} (hs : s.isActive = true) (symbol : String) :
    s.executeCommand searchCommand [.string symbol] =
      if Text.trim symbol = "" then .done (.aborted .missingSymbol)
      else Flow.run s.configuration.tool (.searching (Text.trim symbol)) := by
  rw [executeCommand, if_pos ⟨hs, rfl⟩, symbolOf?_string]
  by_cases ht : Text.trim symbol = ""
  · rw [if_pos ht, if_pos ht]
    rfl
  · rw [if_neg ht, if_neg ht]

theorem resolve_of_matchSymbol {s : Service} (h : Flow.matchSymbol ds = .ok symbol) :
    s.resolve ds = Flow.run s.configuration.tool (.searching symbol) := by
  simp [resolve, Flow.run, Flow.runMatchingDiagnostic, h, Flow.andThen]

theorem queries_executeCommand {s : Service} (hs : s.isActive = true) (symbol : String)
    (host : Host σ) (st : σ) :
    queries ((s.executeCommand searchCommand [.string symbol]).run host st).calls =
      if Text.trim symbol = "" then [] else [Text.trim symbol] := by
  rw [executeCommand_search hs]
  split
  · rfl
  · exact Flow.queries_run s.configuration.tool host (.searching (Text.trim symbol)) st

/-- To activate an offered action is to resolve its diagnostics, if there are no blanks around the
extracted symbol, and only then: the search for it is for the trimmed symbol, or not made. -/
theorem activation_agrees_iff {s : Service} (h : a ∈ s.codeActions languageId ds) :
    ∃ symbol, a.command.arguments = [.string symbol] ∧ Flow.matchSymbol ds = .ok symbol ∧
      ∀ (σ : Type) (host : Host σ) (st : σ),
        let activated := (s.executeCommand a.command.command a.command.arguments).run host st
        let resolved := (s.resolve ds).run host st
        queries resolved.calls = [symbol] ∧
          queries activated.calls =
            (if Text.trim symbol = "" then [] else [Text.trim symbol]) ∧
          (Text.trim symbol = "" → activated = ⟨.aborted .missingSymbol, [], st⟩) ∧
          (Text.trim symbol = symbol → activated = resolved) ∧
          (activated.result = resolved.result ∧ activated.calls = resolved.calls ↔
            Text.trim symbol = symbol) := by
  obtain ⟨hs, hcommand, symbol, harguments, hm, hne⟩ := of_mem_codeActions h
  refine ⟨symbol, harguments, hm, fun σ host st => ?_⟩
  intro activated resolved
  have ha : activated = (s.executeCommand searchCommand [.string symbol]).run host st := by
    rw [← hcommand, ← harguments]
  have hr : resolved =
      (Flow.run s.configuration.tool (.searching symbol)).run host st := by
    rw [← resolve_of_matchSymbol hm]
  have hqa : queries activated.calls =
      if Text.trim symbol = "" then [] else [Text.trim symbol] := by
    rw [ha, queries_executeCommand hs]
  have hqr : queries resolved.calls = [symbol] := by
    rw [hr]
    exact Flow.queries_run s.configuration.tool host (.searching symbol) st
  have hagree : Text.trim symbol = symbol → activated = resolved := by
    intro ht
    rw [ha, hr, executeCommand_search hs, ht, if_neg hne]
  refine ⟨hqr, hqa, ?_, hagree, ?_, fun ht => by simp [hagree ht]⟩
  · intro ht
    rw [ha, executeCommand_search hs, if_pos ht]
    rfl
  · rintro ⟨-, hcalls⟩
    rw [hcalls, hqr] at hqa
    split at hqa
    · cases hqa
    · exact (List.singleton_inj.1 hqa).symm

/-- The remedy for `' A '` searches for something else than its diagnostic asks for. -/
theorem activation_of_spaced_symbol :
    let s := Service.activate (.ofEnvironment {})
    let ds : List Diagnostic := [{ code := .unresolved, message := "no namespace ' A '" }]
    let a := (⟨" A ", 0, {}⟩ : Diagnostic.Remediable).toCodeAction
    let host : Host Unit := {
      search := fun _ st => (.ok [], st)
      findProjects := fun st => (.ok [], st)
      prompt := fun _ _ st => (none, st)
      notify := fun _ st => st
      launch := fun _ st => (.ok (), st) }
    let activated := (s.executeCommand a.command.command a.command.arguments).run host ()
    let resolved := (s.resolve ds).run host ()
    a ∈ s.codeActions "csharp" ds ∧ queries activated.calls = ["A"] ∧
      queries resolved.calls = [" A "] := by
  intro s ds a host activated resolved
  have hm : a ∈ s.codeActions "csharp" ds := List.mem_singleton.2 rfl
  obtain ⟨symbol, harguments, -, h⟩ := activation_agrees_iff hm
  obtain rfl : " A " = symbol := by simpa [a, Diagnostic.Remediable.toCodeAction] using harguments
  obtain ⟨hresolved, hactivated, -⟩ := h Unit host ()
  exact ⟨hm, hactivated, hresolved⟩

end Service

end Remedy
