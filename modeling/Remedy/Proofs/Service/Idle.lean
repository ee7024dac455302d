import Remedy.Proofs.Diagnostic.Match
import Remedy.Proofs.Service.Activation
import Remedy.Host.Script
import Mathlib.Data.List.TakeWhile

namespace Remedy

theorem Text.trim_eq_empty_iff {text : String} :
    Text.trim text = "" ↔ Text.allBlank text = true := by
  have hdropEnd : dropEnd isBlank (text.toList.dropWhile isBlank) = [] ↔
      ∀ c ∈ text.toList.dropWhile isBlank, isBlank c = true := by
    rw [dropEnd, List.reverse_eq_nil_iff, List.dropWhile_eq_nil_iff]
    exact ⟨fun h c hc => h c (List.mem_reverse.2 hc), fun h c hc => h c (List.mem_reverse.1 hc)⟩
  rw [trim, String.ofList_eq_empty_iff, hdropEnd, allBlank, List.all_eq_true]
  constructor
  · intro h
    by_cases hnil : text.toList.dropWhile isBlank = []
    · exact List.dropWhile_eq_nil_iff.1 hnil
    · -- what is left begins with a character that is not blank
      have hhead := List.head_dropWhile_not isBlank hnil
      rw [h _ (List.head_mem hnil)] at hhead
      cases hhead
  · exact fun h c hc => h c ((List.dropWhile_sublist isBlank).subset hc)

namespace Service

variable {s : Service} {request : Request} {reply : Reply}

/-- The request has no target, and this is the reply to it. -/
inductive Idles (s : Service) : Request → Reply → Prop
  | codeActions : Idles s (.codeActions languageId ds) (.offers (s.codeActions languageId ds))
  | otherCommand (h : command ≠ searchCommand) :
      Idles s (.execute command arguments) (.outcome (.aborted (.unknownCommand command)))
  | noArgument : Idles s (.execute searchCommand []) (.outcome (.aborted .missingSymbol))
  | noText (h : ∀ text, argument ≠ .string text) :
      Idles s (.execute searchCommand (argument :: arguments)) (.outcome (.aborted .missingSymbol))
  | blankText (h : Text.allBlank text = true) :
      Idles s (.execute searchCommand (.string text :: arguments))
        (.outcome (.aborted .missingSymbol))
  | nothingUnresolved (h : ∀ d ∈ ds, d.code ≠ .unresolved) :
      Idles s (.resolve ds) (.outcome (.aborted .noUnresolvedDiagnostic))
  | noSymbol (hbefore : ∀ b ∈ before, b.code ≠ .unresolved) (hd : d.code = .unresolved)
      (h : Diagnostic.extractSymbol? d.message = none) :
      Idles s (.resolve (before ++ d :: after)) (.outcome (.aborted .symbolNotExtractable))

theorem symbolOf?_cons_of_ne (h : ∀ text, argument ≠ .string text) (arguments : List Json) :
    symbolOf? (argument :: arguments) = none := by
  cases argument with
  | string text => exact absurd rfl (h text)
  | _ => rfl

theorem answer_execute_of_ne (h : command ≠ searchCommand) (arguments : List Json) :
    s.answer (.execute command arguments) =
      .done (.outcome (.aborted (.unknownCommand command))) := by
  rw [answer, executeCommand, if_neg fun hc => h hc.2]
  rfl

theorem answer_execute_of_symbolOf? (hs : s.isActive = true) (h : symbolOf? arguments = none) :
    s.answer (.execute searchCommand arguments) = .done (.outcome (.aborted .missingSymbol)) := by
  rw [answer, executeCommand, if_pos ⟨hs, rfl⟩, h]
  rfl

theorem answer_resolve_of_error (h : Flow.matchSymbol ds = .error reason) :
    s.answer (.resolve ds) = .done (.outcome (.aborted reason)) := by
  rw [answer, resolve, Flow.run, Flow.runMatchingDiagnostic, h]
  rfl

theorem Idles.answer_eq (h : Idles s request reply) (hs : s.isActive = true) :
    s.answer request = .done reply := by
  cases h with
  | codeActions => rfl
  | otherCommand h => exact answer_execute_of_ne h _
  | noArgument => exact answer_execute_of_symbolOf? hs rfl
  | noText h => exact answer_execute_of_symbolOf? hs (symbolOf?_cons_of_ne h _)
  | blankText h =>
    refine answer_execute_of_symbolOf? hs ?_
    rw [symbolOf?_string, if_pos (Text.trim_eq_empty_iff.2 h)]
  | nothingUnresolved h =>
    refine answer_resolve_of_error ?_
    rw [Flow.matchSymbol, Diagnostic.firstUnresolved?_eq_none h]
  | noSymbol hbefore hd h =>
    refine answer_resolve_of_error ?_
    simp only [Flow.matchSymbol, Diagnostic.firstUnresolved?_append hbefore hd, h]

theorem run_searching_bind_ne_done (tool query : String) (f : Flow.Outcome → Dialogue α) (a : α) :
    (Flow.run tool (.searching query)).bind f ≠ .done a := by
  intro h
  cases h

theorem idles_of_answer_execute (hs : s.isActive = true)
    (h : s.answer (.execute command arguments) = .done reply) :
    Idles s (.execute command arguments) reply := by
  by_cases hc : command = searchCommand
  · subst hc
    cases hsymbol : symbolOf? arguments with
    | some symbol =>
      rw [answer, executeCommand, if_pos ⟨hs, rfl⟩, hsymbol] at h
      exact (run_searching_bind_ne_done _ _ _ _ h).elim
    | none =>
      rw [answer_execute_of_symbolOf? hs hsymbol] at h
      cases h
      cases arguments with
      | nil => exact .noArgument
      | cons argument arguments =>
        cases argument with
        | string text =>
          rw [symbolOf?_string] at hsymbol
          split at hsymbol
          · next htrim => exact .blankText (Text.trim_eq_empty_iff.1 htrim)
          · cases hsymbol
        | _ => exact .noText (by simp)
  · rw [answer_execute_of_ne hc] at h
    cases h
    exact .otherCommand hc

theorem idles_of_answer_resolve (h : s.answer (.resolve ds) = .done reply) :
    Idles s (.resolve ds) reply := by
  obtain ⟨before, d, after, rfl, hbefore, hd⟩ | hall := Diagnostic.exists_append_or_resolved ds
  · have hfirst := Diagnostic.firstUnresolved?_append hbefore hd after
    cases hx : Diagnostic.extractSymbol? d.message with
    | some symbol =>
      have hm : Flow.matchSymbol (before ++ d :: after) = .ok symbol := by
        simp only [Flow.matchSymbol, hfirst, hx]
      rw [answer, resolve_of_matchSymbol hm] at h
      exact (run_searching_bind_ne_done _ _ _ _ h).elim
    | none =>
      have hm : Flow.matchSymbol (before ++ d :: after) = .error .symbolNotExtractable := by
        simp only [Flow.matchSymbol, hfirst, hx]
      rw [answer_resolve_of_error hm] at h
      cases h
      exact .noSymbol hbefore hd hx
  · have hm : Flow.matchSymbol ds = .error .noUnresolvedDiagnostic := by
      rw [Flow.matchSymbol, Diagnostic.firstUnresolved?_eq_none hall]
    rw [answer_resolve_of_error hm] at h
    cases h
    exact .nothingUnresolved hall

/-- The requests without a target are those that are answered at once. -/
theorem idles_iff (hs : s.isActive = true) :
    Idles s request reply ↔ s.answer request = .done reply := by
  refine ⟨fun h => h.answer_eq hs, fun h => ?_⟩
  cases request with
  | codeActions languageId ds =>
    cases h
    exact .codeActions
  | execute command arguments => exact idles_of_answer_execute hs h
  | resolve ds => exact idles_of_answer_resolve h

theorem run_answerAll_cons (s : Service) (request : Request) (requests : List Request)
    (host : Host σ) (st : σ) :
    (s.answerAll (request :: requests)).run host st =
      let t := (s.answer request).run host st
      let u := (s.answerAll requests).run host t.host
      ⟨t.result :: u.result, t.calls ++ u.calls, u.host⟩ := by
  simp only [answerAll, Dialogue.bind_eq, Dialogue.run_bind, Dialogue.pure_eq, Dialogue.run,
    List.append_nil]

theorem run_answerAll_cons_of_idles (h : Idles s request reply) (hs : s.isActive = true)
    (requests : List Request) (host : Host σ) (st : σ) :
    (s.answerAll (request :: requests)).run host st =
      let u := (s.answerAll requests).run host st
      ⟨reply :: u.result, u.calls, u.host⟩ := by
  rw [run_answerAll_cons, h.answer_eq hs]
  rfl

/-- Requests, each marked whether it is left out. -/
abbrev Marked := List (Request × Bool)

namespace Marked

def whole (requests : Marked) : List Request := requests.map (·.1)

def kept (requests : Marked) : List Request := (requests.filter (!·.2)).map (·.1)

/-- Of replies to all the requests, those to the ones that are not left out. -/
def keptReplies (requests : Marked) (replies : List Reply) : List Reply :=
  ((requests.zip replies).filter (!·.1.2)).map (·.2)

end Marked

theorem run_answerAll_kept (hs : s.isActive = true) {requests : Marked}
    (hidle : ∀ r ∈ requests, r.2 = true → ∃ reply, Idles s r.1 reply) (host : Host σ) (st : σ) :
    (s.answerAll requests.kept).run host st =
      let t := (s.answerAll requests.whole).run host st
      ⟨requests.keptReplies t.result, t.calls, t.host⟩ := by
  induction requests generalizing st with
  | nil => rfl
  | cons r requests ih =>
    obtain ⟨hr, hrest⟩ := List.forall_mem_cons.1 hidle
    obtain ⟨request, isLeftOut⟩ := r
    cases isLeftOut with
    | true =>
      obtain ⟨reply, hreply⟩ := hr rfl
      have hwhole := run_answerAll_cons_of_idles hreply hs (Marked.whole requests) host st
      rw [Marked.whole, List.map_cons, ← Marked.whole, hwhole]
      exact ih hrest st
    | false =>
      have hkept : Marked.kept ((request, false) :: requests) =
          request :: Marked.kept requests := rfl
      rw [hkept, run_answerAll_cons, Marked.whole, List.map_cons, ← Marked.whole,
        run_answerAll_cons]
      dsimp only
      rw [ih hrest]
      rfl

theorem length_result_answerAll (s : Service) (requests : List Request) (host : Host σ) (st : σ) :
    ((s.answerAll requests).run host st).result.length = requests.length := by
  induction requests generalizing st with
  | nil => rfl
  | cons request requests ih =>
    rw [run_answerAll_cons, List.length_cons, List.length_cons, ih]

/-- Requests without a target are answered at once, each with the reason that it gives, and no other
requests are. Where they stand among others they can be left out: whatever the host, the other
requests get the same replies, and the host the same calls. -/
theorem idle_requests_invisible (hs : s.isActive = true) :
    (∀ request reply, Idles s request reply ↔ s.answer request = .done reply) ∧
      ∀ requests : Marked, (∀ r ∈ requests, r.2 = true → ∃ reply, Idles s r.1 reply) →
        ∀ (σ : Type) (host : Host σ) (st : σ),
          let whole := (s.answerAll requests.whole).run host st
          let thinned := (s.answerAll requests.kept).run host st
          whole.result.length = requests.length ∧
            thinned.result = requests.keptReplies whole.result ∧
            thinned.calls = whole.calls ∧ thinned.host = whole.host := by
  refine ⟨fun _ _ => idles_iff hs, fun requests hidle σ host st => ?_⟩
  intro whole thinned
  have hthinned : thinned = ⟨requests.keptReplies whole.result, whole.calls, whole.host⟩ :=
    run_answerAll_kept hs hidle host st
  refine ⟨?_, by rw [hthinned], by rw [hthinned], by rw [hthinned]⟩
  exact (length_result_answerAll s requests.whole host st).trans (List.length_map ..)

/-- Between two activations, of which each gets the pick prepared for it, nothing is taken by a
command of another name, a blank symbol and diagnostics without a symbol. -/
theorem idle_requests_invisible_between_activations :
    let s := activate (.ofEnvironment {})
    let unquoted : Diagnostic := { code := .unresolved, message := "no quotes" }
    let requests : Marked := [
      (.execute searchCommand [.string "Json"], false),
      (.execute "extension.other" [.string "Json"], true),
      (.execute searchCommand [.string " "], true),
      (.resolve [unquoted], true),
      (.execute searchCommand [.string "Http"], false)]
    let script : Host.Script := {
      searches := [.ok [{ id := "A" }, { id := "B" }]]
      projects := [.ok []]
      picks := [some "A", some "C"] }
    let whole := (s.answerAll requests.whole).run Host.Script.host script
    let thinned := (s.answerAll requests.kept).run Host.Script.host script
    s.isActive = true ∧ (∀ r ∈ requests, r.2 = true → ∃ reply, Idles s r.1 reply) ∧
      whole.result.length = 5 ∧ thinned.result = requests.keptReplies whole.result ∧
      thinned.calls = whole.calls ∧ thinned.host = whole.host ∧ whole.calls.length = 6 := by
  intro s unquoted requests script whole thinned
  have hunquoted : Idles s (.resolve ([] ++ unquoted :: [])) _ := .noSymbol nofun rfl (by decide)
  have hidle : ∀ r ∈ requests, r.2 = true → ∃ reply, Idles s r.1 reply := by
    simp only [requests, List.forall_mem_cons]
    refine ⟨nofun, fun _ => ⟨_, .otherCommand (by decide)⟩, fun _ => ⟨_, .blankText (by decide)⟩,
      fun _ => ⟨_, hunquoted⟩, nofun, nofun⟩
  obtain ⟨hlength, hresult, hcalls, hhost⟩ :=
    (idle_requests_invisible (s := s) rfl).2 requests hidle _ Host.Script.host script
  exact ⟨rfl, hidle, hlength, hresult, hcalls, hhost, by decide +kernel⟩

end Service

end Remedy
