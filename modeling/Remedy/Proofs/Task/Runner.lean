import Remedy.Proofs.Host.Workstation
import Remedy.Proofs.Task.History

namespace Remedy

/-- The exits of tasks in turn, each with the name of its task and the way in which it ended. -/
def Reports (ending? : Nat → Option Ending) : Watchers → List TaskExit → Prop :=
  List.Forall₂ fun w e => ∃ ending, ending? w.serial = some ending ∧ e = .of w.taskName ending

section Reports

variable {ending? ending?' : Nat → Option Ending} {ws gone left : Watchers}
  {exits exits' : List TaskExit} {wait : Wait}

theorem Reports.mono (h : Reports ending? ws exits)
    (kept : ∀ w ∈ ws, ∀ ending, ending? w.serial = some ending →
      ending?' w.serial = some ending) : Reports ending?' ws exits := by
  induction h with
  | nil => exact .nil
  | cons reported _ ih =>
    obtain ⟨ending, known, rfl⟩ := reported
    refine .cons ⟨ending, kept _ List.mem_cons_self _ known, rfl⟩ (ih fun w hw => ?_)
    exact kept w (List.mem_cons_of_mem _ hw)

theorem Reports.unique (h : Reports ending? ws exits) (h' : Reports ending? ws exits') :
    exits = exits' := by
  refine List.right_unique_forall₂' (fun w e e' he he' => ?_) h h'
  obtain ⟨ending, known, rfl⟩ := he
  obtain ⟨ending', known', rfl⟩ := he'
  cases known.symm.trans known'
  rfl

namespace Wait

/-- A wait for these tasks, which has the exits of the first ones. -/
def Answers (ending? : Nat → Option Ending) (ws : Watchers) (wait : Wait) : Prop :=
  ∃ gone, ws = gone ++ wait.left ∧ Reports ending? gone wait.exits

theorem answers_resume (h : Reports ending? gone exits) (left : Watchers) :
    Answers ending? (gone ++ left) (resume ending? exits left) := by
  induction left generalizing gone exits with
  | nil => exact ⟨gone, rfl, h⟩
  | cons w left ih =>
    rw [resume]
    split
    next ending known =>
      have grown : Reports ending? (gone ++ [w]) (exits ++ [.of w.taskName ending]) :=
        List.rel_append h (.cons ⟨ending, known, rfl⟩ .nil)
      simpa using ih grown
    next => exact ⟨gone, rfl, h⟩

theorem reply?_eq_some_iff : wait.reply? = some exits ↔ wait.left = [] ∧ wait.exits = exits := by
  simp [reply?]

theorem Answers.mono (h : Answers ending? ws wait)
    (kept : ∀ w ∈ ws, ∀ ending, ending? w.serial = some ending →
      ending?' w.serial = some ending) : Answers ending?' ws wait := by
  obtain ⟨gone, rfl, reports⟩ := h
  exact ⟨gone, rfl, reports.mono fun w hw => kept w (List.mem_append_left _ hw)⟩

theorem Answers.poll (h : Answers ending? ws wait) : Answers ending? ws (wait.poll ending?) := by
  obtain ⟨gone, rfl, reports⟩ := h
  exact answers_resume reports wait.left

theorem Answers.reports (h : Answers ending? ws wait) (reply : wait.reply? = some exits) :
    Reports ending? ws exits := by
  obtain ⟨gone, rfl, reports⟩ := h
  obtain ⟨none_left, rfl⟩ := reply?_eq_some_iff.mp reply
  rwa [none_left, List.append_nil]

end Wait

end Reports

namespace TaskHistory

variable {h : TaskHistory} {n k : Nat} {ending : Ending} {ending? : Nat → Option Ending}
  {ns : List Nat}

/-- The history in which a task is known to have ended. A task that was not launched, or is known
to have ended before, adds nothing to it. -/
def note (h : TaskHistory) (n : Nat) (ending : Ending) : TaskHistory :=
  if n ∈ serials h ∧ h.ending? n = none then .ended n ending :: h else h

def noteAll (ending? : Nat → Option Ending) : List Nat → TaskHistory → TaskHistory
  | [], h => h
  | n :: ns, h => noteAll ending? ns ((ending? n).elim h (note h n))

/-- The history in which all tasks are known to have ended that have. -/
def catchUp (ending? : Nat → Option Ending) (h : TaskHistory) : TaskHistory :=
  noteAll ending? (serials h) h

@[simp] theorem launches_note : launches (note h n ending) = launches h := by
  unfold note
  split <;> rfl

@[simp] theorem watchers_note : watchers (note h n ending) = watchers h := by
  unfold note
  split <;> rfl

@[simp] theorem taken_note : taken (note h n ending) = taken h := by
  unfold note
  split <;> rfl

theorem IsRun.note (run : IsRun h) : IsRun (note h n ending) := by
  unfold TaskHistory.note
  split
  next unnoted => exact .ended run unnoted.1 unnoted.2
  next => exact run

theorem ending?_note (hk : k ∈ serials h) :
    (note h n ending).ending? k = (h.ending? k).or (if n = k then some ending else none) := by
  unfold note
  by_cases same : n = k
  · subst same
    cases known : h.ending? n <;> simp [hk, known]
  · split <;> simp [same]

@[simp] theorem launches_noteAll : launches (noteAll ending? ns h) = launches h := by
  induction ns generalizing h with
  | nil => rfl
  | cons n ns ih => cases hn : ending? n <;> simp [noteAll, hn, ih]

@[simp] theorem watchers_noteAll : watchers (noteAll ending? ns h) = watchers h := by
  induction ns generalizing h with
  | nil => rfl
  | cons n ns ih => cases hn : ending? n <;> simp [noteAll, hn, ih]

@[simp] theorem taken_noteAll : taken (noteAll ending? ns h) = taken h := by
  induction ns generalizing h with
  | nil => rfl
  | cons n ns ih => cases hn : ending? n <;> simp [noteAll, hn, ih]

theorem IsRun.noteAll (run : IsRun h) : IsRun (noteAll ending? ns h) := by
  induction ns generalizing h with
  | nil => exact run
  | cons n ns ih =>
    rw [TaskHistory.noteAll]
    cases ending? n with
    | none => exact ih run
    | some ending => exact ih run.note

theorem ending?_noteAll (hk : k ∈ serials h) :
    (noteAll ending? ns h).ending? k =
      (h.ending? k).or (if k ∈ ns then ending? k else none) := by
  induction ns generalizing h with
  | nil => simp [noteAll]
  | cons n ns ih =>
    rw [noteAll]
    cases hn : ending? n with
    | none =>
      rw [Option.elim_none, ih hk]
      by_cases same : k = n
      · simp [same, hn]
      · simp [same]
    | some ending =>
      rw [Option.elim_some, ih (by simpa [serials] using hk), ending?_note hk]
      by_cases same : k = n
      · subst same
        cases h.ending? k <;> simp [hn]
      · simp [same, Ne.symm same]

theorem ending?_catchUp (hn : n ∈ serials h)
    (kept : ∀ ending, h.ending? n = some ending → ending? n = some ending) :
    (catchUp ending? h).ending? n = ending? n := by
  rw [catchUp, ending?_noteAll hn, if_pos hn]
  cases known : h.ending? n with
  | none => rfl
  | some ending => exact (kept ending known).symm

end TaskHistory

namespace TaskRunner

open TaskHistory

/-- What a runner goes through with the waits that have been begun, the last one first. The history
tells of every task how it ended once the system does. -/
inductive Follows (system : TaskSystem σ) (known : σ → Nat → Prop) :
    TaskRunner σ → List Wait → TaskHistory → Prop
  | start {r} (unused : r.watchers = []) : Follows system known r [] []
  | launched {r after waits h task n} (before : Follows system known r waits h)
      (launched : r.launch system task = (.ok (), after))
      (added : after.watchers.getLast? = some ⟨n, task.name⟩) :
    Follows system known after waits
      (catchUp (system.ending? after.state)
        (.launched n task.name :: catchUp (system.ending? after.state) h))
  | refused {r after waits h task failure} (before : Follows system known r waits h)
      (refused : r.launch system task = (.error failure, after)) :
    Follows system known after waits (.refused :: catchUp (system.ending? after.state) h)
  /-- Time passes, and tasks may end. -/
  | passed {r waits h state} (before : Follows system known r waits h)
      (grown : system.Grows known r.state state) :
    Follows system known { r with state } waits (catchUp (system.ending? state) h)
  | awaited {r waits h} (before : Follows system known r waits h) :
    Follows system known r.beginWait.2 (r.beginWait.1 :: waits) (.awaited :: h)
  | polled {r later wait earlier h} (before : Follows system known r (later ++ wait :: earlier) h) :
    Follows system known r (later ++ wait.poll (system.ending? r.state) :: earlier) h

/-- The runner and the waits are those that the history leaves. -/
structure Agrees (system : TaskSystem σ) (known : σ → Nat → Prop) (r : TaskRunner σ)
    (waits : List Wait) (h : TaskHistory) : Prop where
  isRun : IsRun h
  watchers_eq : r.watchers = TaskHistory.watchers h
  known : ∀ n ∈ serials h, known r.state n
  ending_eq : ∀ n ∈ serials h, h.ending? n = system.ending? r.state n
  waits : List.Forall₂ (Wait.Answers (system.ending? r.state)) (taken h) waits

variable {σ : Type} {system : TaskSystem σ} {known : σ → Nat → Prop} {r after : TaskRunner σ}
  {waits : List Wait} {h : TaskHistory} {task : Task} {failure : Failure} {state : σ}

theorem exists_spawn_of_launch (launched : r.launch system task = (.ok (), after)) :
    ∃ n, system.spawn (r.command task) r.state = (.ok n, after.state) ∧
      after.watchers = r.watchers.launch (system.ending? after.state) n task.name := by
  rw [launch] at launched
  split at launched
  · cases launched
  next n state spawned =>
    cases launched
    exact ⟨n, spawned, rfl⟩

theorem spawn_of_launch_refused (refused : r.launch system task = (.error failure, after)) :
    after.state = (system.spawn (r.command task) r.state).2 ∧ after.watchers = r.watchers := by
  rw [launch] at refused
  split at refused
  next reason state spawned =>
    cases refused
    exact ⟨by rw [spawned], rfl⟩
  · cases refused

namespace Agrees

theorem passed (before : r.Agrees system known waits h)
    (grown : system.Grows known r.state state) :
    ({ r with state } : TaskRunner σ).Agrees system known waits
      (catchUp (system.ending? state) h) where
  isRun := before.isRun.noteAll
  watchers_eq := by rw [catchUp, watchers_noteAll, before.watchers_eq]
  known n hn := by
    rw [catchUp, serials, launches_noteAll] at hn
    exact grown.known n (before.known n hn)
  ending_eq n hn := by
    rw [catchUp, serials, launches_noteAll] at hn
    refine ending?_catchUp hn fun ending ended => grown.ending n ending ?_
    rw [← before.ending_eq n hn, ended]
  waits := by
    rw [catchUp, taken_noteAll]
    exact before.waits.imp fun ws wait answers => answers.mono fun w _ => grown.ending w.serial

theorem launched (lawful : system.IsLawful known) (before : r.Agrees system known waits h)
    (launched : r.launch system task = (.ok (), after))
    (added : after.watchers.getLast? = some ⟨n, task.name⟩) :
    after.Agrees system known waits (catchUp (system.ending? after.state)
      (.launched n task.name :: catchUp (system.ending? after.state) h)) := by
  obtain ⟨n', spawned, watchers_eq⟩ := exists_spawn_of_launch launched
  obtain rfl : n' = n := by
    rw [watchers_eq, Watchers.launch, List.getLast?_concat] at added
    exact congrArg Watcher.serial (Option.some.inj added)
  have grown := lawful.grows_spawn (r.command task) r.state
  rw [spawned] at grown
  obtain ⟨new, taken_in⟩ := lawful.fresh _ _ _ _ spawned
  -- first the ends that the system tells of, then the launch, then perhaps its own end
  have caught := before.passed grown
  have fresh : n' ∉ serials (catchUp (system.ending? after.state) h) := by
    rw [catchUp, serials, launches_noteAll]
    exact fun old => new (before.known n' old)
  have run : IsRun (.launched n' task.name :: catchUp (system.ending? after.state) h) :=
    caught.isRun.launched fresh
  refine ⟨run.noteAll, ?_, ?_, ?_, ?_⟩
  · rw [catchUp, watchers_noteAll, watchers_eq, TaskHistory.watchers, ← caught.watchers_eq,
      Watchers.launch, Watchers.launch]
    refine congrArg (· ++ _) (List.filter_congr fun w hw => ?_)
    rw [caught.ending_eq w.serial]
    exact serial_mem_of_mem_watchers (caught.watchers_eq ▸ hw)
  · intro k hk
    rw [catchUp, serials, launches_noteAll, ← serials, serials_launched, List.mem_append,
      List.mem_singleton] at hk
    obtain hk | rfl := hk
    · exact caught.known k hk
    · exact taken_in
  · intro k hk
    rw [catchUp, serials, launches_noteAll, ← serials] at hk
    refine ending?_catchUp hk fun ending ended => ?_
    rw [serials_launched, List.mem_append, List.mem_singleton] at hk
    obtain hk | rfl := hk
    · rw [← caught.ending_eq k hk]
      exact ended
    · have running := caught.isRun.ending?_eq_none fresh
      rw [TaskHistory.ending?, running] at ended
      cases ended
  · rw [catchUp, taken_noteAll]
    exact caught.waits

theorem refused (lawful : system.IsLawful known) (before : r.Agrees system known waits h)
    (refused : r.launch system task = (.error failure, after)) :
    after.Agrees system known waits (.refused :: catchUp (system.ending? after.state) h) := by
  obtain ⟨state_eq, watchers_eq⟩ := spawn_of_launch_refused refused
  have grown := lawful.grows_spawn (r.command task) r.state
  rw [← state_eq] at grown
  have caught := before.passed grown
  exact ⟨.refused caught.isRun, watchers_eq.trans caught.watchers_eq, caught.known,
    caught.ending_eq, caught.waits⟩

theorem awaited (before : r.Agrees system known waits h) :
    r.beginWait.2.Agrees system known (r.beginWait.1 :: waits) (.awaited :: h) where
  isRun := .awaited before.isRun
  watchers_eq := rfl
  known := before.known
  ending_eq := before.ending_eq
  waits := .cons ⟨[], before.watchers_eq.symm, .nil⟩ before.waits

theorem polled {later earlier : List Wait} {wait : Wait}
    (before : r.Agrees system known (later ++ wait :: earlier) h) :
    r.Agrees system known (later ++ wait.poll (system.ending? r.state) :: earlier) h := by
  refine { before with waits := ?_ }
  rw [← List.take_append_drop later.length (taken h)]
  refine List.rel_append (List.forall₂_take_append _ _ _ before.waits) ?_
  have rest := List.forall₂_drop_append _ _ _ before.waits
  generalize List.drop later.length (taken h) = dropped at rest ⊢
  cases rest with
  | cons answers others => exact .cons answers.poll others

end Agrees

theorem Follows.agrees (lawful : system.IsLawful known) (followed : Follows system known r waits h) :
    r.Agrees system known waits h := by
  induction followed with
  | start unused =>
    exact ⟨.start, unused, by simp [serials], by simp [serials], .nil⟩
  | launched _ launched added ih => exact ih.launched lawful launched added
  | refused _ refused ih => exact ih.refused lawful refused
  | passed _ grown ih => exact ih.passed grown
  | awaited _ ih => exact ih.awaited
  | polled _ ih => exact ih.polled

/-- Who waits for all tasks begins a wait, lets time pass and goes on with the wait. -/
theorem Follows.waitAll (lawful : system.IsLawful known)
    (followed : Follows system known r waits h) :
    ∃ wait h', wait.reply? = (r.waitAll system).1 ∧ taken h' = TaskHistory.watchers h :: taken h ∧
      Follows system known (r.waitAll system).2 (wait :: waits) h' := by
  have grown := lawful.grows_await (r.watchers.map (·.serial)) r.state
  have passed := followed.awaited.passed grown
  exact ⟨_, _, rfl, by simp [catchUp], @Follows.polled _ _ _ _ [] _ _ _ passed⟩

section Sample

open Host (Workstation)
open Unix (Machine Program)

def started (r : TaskRunner Workstation) (name line : String) : TaskRunner Workstation :=
  (r.launch Workstation.system ⟨name, "NuGet", line⟩).2

theorem Follows.started {r : TaskRunner Workstation} {h : TaskHistory}
    (before : Follows Workstation.system Workstation.Knows r [] h) (n : Nat) (name line : String)
    (launched : (r.launch Workstation.system ⟨name, "NuGet", line⟩).1.isOk = true)
    (added : (r.started name line).watchers.getLast? = some ⟨n, name⟩) :
    Follows Workstation.system Workstation.Knows (r.started name line) []
      (catchUp (Workstation.system.ending? (r.started name line).state)
        (.launched n name ::
          catchUp (Workstation.system.ending? (r.started name line).state) h)) := by
  refine before.launched (Prod.ext ?_ rfl) added
  cases reply : (r.launch Workstation.system ⟨name, "NuGet", line⟩).1 with
  | ok => rfl
  | error => simp [reply, Except.isOk, Except.toBool] at launched

end Sample

end TaskRunner

end Remedy
