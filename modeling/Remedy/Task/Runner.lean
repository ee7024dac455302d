import Remedy.Failure
import Remedy.Install
import Remedy.Unix.Signal

namespace Remedy

open Unix (Exit)

/-- A program to be started. Its raw arguments are one text, which it takes apart itself. -/
structure ProcessCommand where
  program : String
  arguments : List String := []
  rawArguments : String := ""
  directory : Option String := none
deriving DecidableEq, Repr

/-- The command that has a shell read a command line. -/
def Shell.Flavor.command : Flavor → String → ProcessCommand
  | .posix, line => { program := "sh", arguments := ["-c", line] }
  | .cmd, line => { program := "cmd", rawArguments := "/S /C \"" ++ line ++ "\"" }

/-- How the process of a task ended, as its watcher knows it. -/
inductive Ending where
  | exited (exit : Exit)
  | unknown (reason : String)
deriving DecidableEq, Repr

/-- The system in which tasks run, with the states `σ`. -/
structure TaskSystem (σ : Type) where
  /-- Starts a command. The answer is the number of its process, or why there is none. -/
  spawn : ProcessCommand → σ → Except String Nat × σ
  /-- How a process ended; nothing as long as its watcher waits for it. -/
  ending? : σ → Nat → Option Ending
  /-- Lets time pass until processes have ended, as far as they do. -/
  await : List Nat → σ → σ

namespace TaskSystem

/-- Processes that are known stay so, and what has ended stays as it was. -/
structure Grows (system : TaskSystem σ) (known : σ → Nat → Prop) (s s' : σ) : Prop where
  known : ∀ n, known s n → known s' n
  ending : ∀ n ending, system.ending? s n = some ending → system.ending? s' n = some ending

namespace Grows

variable {system : TaskSystem σ} {known : σ → Nat → Prop} {s s' s'' : σ}

theorem refl (s : σ) : system.Grows known s s where
  known _ hn := hn
  ending _ _ ended := ended

theorem trans (h : system.Grows known s s') (h' : system.Grows known s' s'') :
    system.Grows known s s'' where
  known n hn := h'.known n (h.known n hn)
  ending n ending ended := h'.ending n ending (h.ending n ending ended)

end Grows

/-- What a runner relies on: the system forgets nothing, and gives every process a number that no
process had before. -/
structure IsLawful (system : TaskSystem σ) (known : σ → Nat → Prop) : Prop where
  grows_spawn : ∀ command s, system.Grows known s (system.spawn command s).2
  grows_await : ∀ ns s, system.Grows known s (system.await ns s)
  fresh : ∀ command s n s', system.spawn command s = (.ok n, s') → ¬ known s n ∧ known s' n

end TaskSystem

/-- The watcher of a task, which waits for its process. -/
structure Watcher where
  serial : Nat
  taskName : String
deriving DecidableEq, Repr

structure TaskExit where
  taskName : String
  /-- `none` if the process was ended by a signal or could not be waited for. -/
  exitCode : Option Nat
deriving DecidableEq, Repr

namespace TaskExit

def of (taskName : String) : Ending → TaskExit
  | .exited (.code n) => ⟨taskName, some n⟩
  | .exited (.signal _) | .unknown _ => ⟨taskName, none⟩

def isSuccess (e : TaskExit) : Bool := e.exitCode == some 0

end TaskExit

abbrev Watchers := List Watcher

/-- A launch drops the watchers of the tasks that have ended. -/
def Watchers.launch (ws : Watchers) (ending? : Nat → Option Ending) (serial : Nat)
    (taskName : String) : Watchers :=
  ws.filter (fun w => (ending? w.serial).isNone) ++ [⟨serial, taskName⟩]

/-- A wait under way: the exits that it has, and the watchers that it has not come to. -/
structure Wait where
  exits : List TaskExit := []
  left : Watchers
deriving DecidableEq, Repr

namespace Wait

/-- Goes through the watchers in turn, up to one whose task has not ended. -/
def resume (ending? : Nat → Option Ending) (exits : List TaskExit) : Watchers → Wait
  | [] => ⟨exits, []⟩
  | w :: left =>
    match ending? w.serial with
    | some ending => resume ending? (exits ++ [.of w.taskName ending]) left
    | none => ⟨exits, w :: left⟩

def poll (wait : Wait) (ending? : Nat → Option Ending) : Wait :=
  resume ending? wait.exits wait.left

/-- What a wait comes back with, once no watcher is left. -/
def reply? (wait : Wait) : Option (List TaskExit) :=
  if wait.left.isEmpty then some wait.exits else none

end Wait

structure TaskRunner (σ : Type) where
  directory : Option String
  state : σ
  watchers : Watchers := []

namespace TaskRunner

def pending (r : TaskRunner σ) : Nat := r.watchers.length

def command (r : TaskRunner σ) (task : Task) : ProcessCommand :=
  { (Shell.Flavor.native Shell.isWindows).command task.commandLine with directory := r.directory }

def launch (system : TaskSystem σ) (r : TaskRunner σ) (task : Task) :
    Except Failure Unit × TaskRunner σ :=
  match system.spawn (r.command task) r.state with
  | (.error reason, state) => (.error (.launch task.name reason), { r with state })
  | (.ok serial, state) =>
    let watchers := r.watchers.launch (system.ending? state) serial task.name
    (.ok (), { r with state, watchers })

/-- Begins to wait for all tasks. Their watchers are taken at once, so no other wait has them. -/
def beginWait (r : TaskRunner σ) : Wait × TaskRunner σ :=
  ({ left := r.watchers }, { r with watchers := [] })

/-- Waits for all tasks; there is no reply if one of them does not end. -/
def waitAll (system : TaskSystem σ) (r : TaskRunner σ) : Option (List TaskExit) × TaskRunner σ :=
  let (wait, r) := r.beginWait
  let state := system.await (wait.left.map (·.serial)) r.state
  ((wait.poll (system.ending? state)).reply?, { r with state })

end TaskRunner

end Remedy
