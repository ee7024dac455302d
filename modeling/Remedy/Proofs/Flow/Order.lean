import Remedy.Proofs.Flow.History

namespace Remedy

inductive Port where
  | registry
  | workspace
  | picker
  | notifier
  | runner
deriving DecidableEq, Repr

def Call.port : Call → Port
  | search _ => .registry
  | findProjects => .workspace
  | prompt .. => .picker
  | notify _ => .notifier
  | launch .. => .runner

namespace Flow

/-- What the stage of a state may call on. -/
def State.ports : State → List Port
  | .matchingDiagnostic _ | .ended _ => []
  | .searching _ => [.registry, .notifier]
  | .awaitingPackagePick _ | .awaitingProjectPick .. => [.picker]
  | .locatingProjects _ => [.workspace, .notifier]
  | .installing .. => [.notifier, .runner]

theorem Transition.port_mem_ports (h : Transition tool st es st') :
    ∀ e ∈ es, e.call.port ∈ st.ports := by
  cases h <;> simp [State.ports, Exchange.call, Call.port]

/-- The calls that carry a flow on. An error notice is none, for the flow ends with it. -/
inductive Milestone where
  | search
  | packagePrompt
  | enumeration
  | projectPrompt
  | announcement
  | launch
deriving DecidableEq, Repr

/-- The milestones in their order. -/
def Milestone.inOrder : List Milestone :=
  [.search, .packagePrompt, .enumeration, .projectPrompt, .announcement, .launch]

def milestone? : Call → Option Milestone
  | .search _ => some .search
  | .findProjects => some .enumeration
  | .prompt _ placeholder =>
    some (if placeholder = packagePlaceholder then .packagePrompt else .projectPrompt)
  | .notify (.info _) => some .announcement
  | .notify (.error _) => none
  | .launch .. => some .launch

/-- The milestones that lie ahead of a state. -/
def State.ahead : State → List Milestone
  | .matchingDiagnostic _ | .searching _ => Milestone.inOrder
  | .awaitingPackagePick _ => Milestone.inOrder.drop 1
  | .locatingProjects _ => Milestone.inOrder.drop 2
  | .awaitingProjectPick .. => Milestone.inOrder.drop 3
  | .installing .. => Milestone.inOrder.drop 4
  | .ended _ => []

theorem State.ahead_sublist (st : State) : st.ahead.Sublist Milestone.inOrder := by
  cases st with
  | matchingDiagnostic | searching => exact .refl _
  | ended => exact List.nil_sublist _
  | awaitingPackagePick | locatingProjects | awaitingProjectPick | installing =>
    exact List.drop_sublist _ _

theorem Transition.milestones_append_ahead (h : Transition tool st es st') :
    (es.filterMap (milestone? ·.call) ++ st'.ahead).Sublist st.ahead := by
  cases h <;>
    simp [Exchange.call, milestone?, placeholders_ne.symm, State.ahead, Milestone.inOrder]

theorem Course.milestones_sublist (h : Course tool st es outcome) :
    (es.filterMap (milestone? ·.call)).Sublist st.ahead := by
  induction h with
  | ended => exact List.nil_sublist _
  | step ht _ ih =>
    rw [List.filterMap_append]
    exact ((List.Sublist.refl _).append ih).trans ht.milestones_append_ahead

/-- One step, of the flow and the host together. -/
def advance (tool : String) (host : Host σ) (c : State × σ) : State × σ :=
  let t := (c.1.step tool).run host c.2
  (t.result, t.host)

/-- Where a flow and its host are after some steps. -/
def after (tool : String) (host : Host σ) : Nat → State × σ → State × σ
  | 0, c => c
  | n + 1, c => after tool host n (advance tool host c)

/-- What one step calls. -/
def stepCalls (tool : String) (host : Host σ) (c : State × σ) : List Call :=
  ((c.1.step tool).run host c.2).calls

/-- The run `t` from `c` is made of `n` steps from states that have not ended. -/
structure Consists (tool : String) (host : Host σ) (c : State × σ) (n : Nat)
    (t : Transcript σ Outcome) : Prop where
  pending : ∀ k < n, (after tool host k c).1.isTerminal = false
  ended : after tool host n c = (.ended t.result, t.host)
  calls : t.calls = (List.range n).flatMap fun k => stepCalls tool host (after tool host k c)

theorem consists_run (tool : String) (host : Host σ) (st : State) (s : σ) :
    ∃ n, st.rank + n ≤ 6 ∧ Consists tool host (st, s) n ((run tool st).run host s) := by
  cases hst : st.isTerminal with
  | true =>
    cases st with
    | ended outcome => exact ⟨0, Nat.le_refl 6, by simp, rfl, rfl⟩
    | _ => cases hst
  | false =>
    have hlt := (transition_step tool host s hst).rank_lt
    have hle := ((st.step tool).run host s).result.rank_le_six
    obtain ⟨n, hn, hc⟩ := consists_run tool host ((st.step tool).run host s).result
      ((st.step tool).run host s).host
    rw [← step_bind_run, Dialogue.run_bind]
    refine ⟨n + 1, by omega, ?_, hc.ended, ?_⟩
    · intro k hk
      cases k with
      | zero => exact hst
      | succ k => exact hc.pending k (by omega)
    · simp only [List.range_succ_eq_map, List.flatMap_cons, List.flatMap_map]
      rw [hc.calls]
      rfl
termination_by 6 - st.rank

theorem port_mem_ports_of_mem_stepCalls (tool : String) (host : Host σ) (st : State) (s : σ) :
    ∀ c ∈ stepCalls tool host (st, s), c.port ∈ st.ports := by
  cases hst : st.isTerminal with
  | true =>
    cases st with
    | ended => simp [stepCalls, Dialogue.run]
    | _ => cases hst
  | false =>
    intro c hc
    rw [stepCalls, Dialogue.calls_run] at hc
    obtain ⟨e, he, rfl⟩ := List.mem_map.1 hc
    exact (transition_step tool host s hst).port_mem_ports e he

theorem step_of_isTerminal (tool : String) (host : Host σ) {st : State}
    (hst : st.isTerminal = true) (s : σ) : (st.step tool).run host s = ⟨st, [], s⟩ := by
  cases st with
  | ended => rfl
  | _ => cases hst

/-- The stages of a flow follow one another, whatever state it starts from and whatever the host
answers; from the package prompt or before, each exchange is warranted by those before it. -/
theorem run_in_order (tool : String) (host : Host σ) (st : State) (s : σ) :
    (st.isTerminal = false → st.rank < ((st.step tool).run host s).result.rank) ∧
      (∀ c ∈ stepCalls tool host (st, s), c.port ∈ st.ports) ∧
      (st.isTerminal = true → (st.step tool).run host s = ⟨st, [], s⟩) ∧
      (∃ n ≤ 6, Consists tool host (st, s) n ((run tool st).run host s)) ∧
      (((run tool st).run host s).calls.filterMap milestone?).Sublist Milestone.inOrder ∧
      (st.rank ≤ 2 → ∀ before e later,
        (run tool st).exchanges host s = before ++ e :: later → Warranted tool before e) := by
  have hcourse := course_run tool host st s
  refine ⟨fun hst => (transition_step tool host s hst).rank_lt,
    port_mem_ports_of_mem_stepCalls tool host st s, fun hst => step_of_isTerminal tool host hst s,
    ?_, ?_, ?_⟩
  · obtain ⟨n, hn, hc⟩ := consists_run tool host st s
    exact ⟨n, by omega, hc⟩
  · rw [Dialogue.calls_run, List.filterMap_map]
    exact hcourse.milestones_sublist.trans st.ahead_sublist
  · intro hst before e later he
    have hw := hcourse.warranted (State.sourced_of_rank_le_two hst [])
    rw [he] at hw
    exact hw.at

end Flow

end Remedy
