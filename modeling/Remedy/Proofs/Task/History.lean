import Mathlib.Data.List.Nodup
import Remedy.Task.Runner

namespace Remedy

inductive TaskEvent where
  | launched (serial : Nat) (taskName : String)
  | refused
  | ended (serial : Nat) (ending : Ending)
  /-- Someone begins to wait, and takes the watchers. -/
  | awaited
deriving DecidableEq, Repr

/-- What has happened, the last event first. -/
abbrev TaskHistory := List TaskEvent

namespace TaskHistory

/-- The tasks in the order of their launches. -/
@[simp] def launches : TaskHistory → Watchers
  | [] => []
  | .launched n taskName :: past => launches past ++ [⟨n, taskName⟩]
  | .refused :: past | .ended .. :: past | .awaited :: past => launches past

def serials (h : TaskHistory) : List Nat := (launches h).map (·.serial)

@[simp] def ending? : TaskHistory → Nat → Option Ending
  | [], _ => none
  | .ended k ending :: past, n => if k = n then some ending else ending? past n
  | .launched .. :: past, n | .refused :: past, n | .awaited :: past, n => ending? past n

/-- The watchers that are listed. -/
@[simp] def watchers : TaskHistory → Watchers
  | [] => []
  | .launched n taskName :: past => (watchers past).launch (ending? past) n taskName
  | .refused :: past | .ended .. :: past => watchers past
  | .awaited :: _ => []

/-- The watchers that each wait has taken, those of the last wait first. -/
@[simp] def taken : TaskHistory → List Watchers
  | [] => []
  | .awaited :: past => watchers past :: taken past
  | .launched .. :: past | .refused :: past | .ended .. :: past => taken past

/-- The tasks that are waited for or have been, in the order of the waits. -/
def told (h : TaskHistory) : Watchers := (taken h).reverse.flatten

/-- The histories that can come about: a serial number is given once, and only a task that was
launched ends, and it does so once. -/
inductive IsRun : TaskHistory → Prop
  | start : IsRun []
  | launched {past n taskName} (run : IsRun past) (fresh : n ∉ serials past) :
    IsRun (.launched n taskName :: past)
  | refused {past} (run : IsRun past) : IsRun (.refused :: past)
  | ended {past n ending} (run : IsRun past) (known : n ∈ serials past)
      (running : ending? past n = none) :
    IsRun (.ended n ending :: past)
  | awaited {past} (run : IsRun past) : IsRun (.awaited :: past)

/-- Some launch came when the task had ended. -/
def Superseded (n : Nat) (h : TaskHistory) : Prop :=
  ∃ later k taskName earlier ending,
    h = later ++ .launched k taskName :: earlier ∧ .ended n ending ∈ earlier

/-- Someone waits, for the first time after the events of `before`. -/
def FirstWait (h before : TaskHistory) : Prop :=
  ∃ after, h = after ++ .awaited :: before ∧ .awaited ∉ before

variable {h later earlier : TaskHistory} {n k : Nat} {taskName : String} {w : Watcher}
  {ending : Ending}

@[simp] theorem serials_launched :
    serials (.launched n taskName :: h) = serials h ++ [n] := by
  simp [serials]

theorem serial_mem_serials (hw : w ∈ launches h) : w.serial ∈ serials h :=
  List.mem_map_of_mem hw

@[simp] theorem told_awaited : told (.awaited :: h) = told h ++ watchers h := by
  simp [told]

@[simp] theorem not_superseded_nil : ¬ Superseded n [] := by
  simp [Superseded]

section FirstWait

variable {before : TaskHistory}

theorem FirstWait.mem (first : FirstWait h before) : .awaited ∈ h := by
  obtain ⟨after, rfl, _⟩ := first
  simp

@[simp] theorem not_firstWait_nil : ¬ FirstWait [] before := by
  simp [FirstWait]

end FirstWait

/-- What was taken and what is still listed stands in the order of the launches. -/
theorem told_append_sublist (h : TaskHistory) : (told h ++ watchers h).Sublist (launches h) := by
  induction h with
  | nil => exact .slnil
  | cons event past ih =>
    cases event with
    | launched n taskName =>
      have kept : (told past ++ (watchers past).filter fun w => (ending? past w.serial).isNone).Sublist
          (launches past) :=
        (List.Sublist.append_left List.filter_sublist _).trans ih
      rw [watchers, Watchers.launch, launches, ← List.append_assoc]
      exact kept.append_right _
    | refused | ended => exact ih
    | awaited => rwa [told_awaited, watchers, List.append_nil]

theorem watchers_sublist (h : TaskHistory) : (watchers h).Sublist (launches h) :=
  (List.sublist_append_right ..).trans (told_append_sublist h)

theorem serial_mem_of_mem_watchers (hw : w ∈ watchers h) : w.serial ∈ serials h :=
  serial_mem_serials ((watchers_sublist h).mem hw)

namespace IsRun

theorem ending?_eq_none (run : IsRun h) (fresh : n ∉ serials h) : ending? h n = none := by
  induction run with
  | start => rfl
  | launched _ _ ih =>
    rw [serials_launched, List.mem_append, not_or] at fresh
    exact ih fresh.1
  | @ended past k ending _ known _ ih =>
    have hk : k ≠ n := fun same => fresh (same ▸ known)
    simpa [hk] using ih fresh
  | refused _ ih | awaited _ ih => exact ih fresh

end IsRun

end TaskHistory

end Remedy
