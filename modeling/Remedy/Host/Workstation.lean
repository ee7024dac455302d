import Remedy.Task.Runner
import Remedy.Unix.Machine

namespace Remedy.Host

open Unix Files

structure Workstation where
  base : List Name
  machine : Machine
  seen : List (Nat × Exit) := []

namespace Workstation

/-- What is said of a text that no system call can take. -/
def nulByte : String := "nul byte found in provided data"

def workingDirectory (w : Workstation) : Option String → Except String (List Name)
  | none => .ok w.base
  | some path =>
    if path.toList.contains '\x00' then .error nulByte
    else
      let fs := w.machine.world.files
      match fs.locate w.base (Name.ofString path) true with
      | .error e => .error e.report
      | .ok location =>
        match fs.root.get? location with
        | some (.directory ..) => .ok location
        | some _ => .error Errno.notDirectory.report
        | none => .error Errno.missing.report

def environment : List (String × String) :=
  [("PATH", "/usr/local/sbin:/usr/local/bin:/usr/sbin:/usr/bin:/sbin:/bin"), ("HOME", "/root")]

def program? (m : Machine) (command : ProcessCommand) : Option Program :=
  m.loader command.program ((command.program :: command.arguments).map Text.Octets.ofText)
    environment

def load (w : Workstation) (command : ProcessCommand) : Except String (List Name × Program) := do
  if command.arguments.any (·.toList.contains '\x00') then .error nulByte
  else
    let cwd ← w.workingDirectory command.directory
    if command.arguments.any (·.utf8ByteSize > Machine.maxArgument) then
      .error Errno.tooLong.report
    else
      match program? w.machine command with
      | none => .error Errno.missing.report
      | some program => .ok (cwd, program)

def spawn (command : ProcessCommand) (w : Workstation) : Except String Nat × Workstation :=
  match w.load command with
  | .error reason => (.error reason, w)
  | .ok (cwd, program) =>
    let (machine, pid) := w.machine.start cwd program
    (.ok pid, { w with machine })

/-- Wakes the watchers of tasks, as far as these have ended. -/
def wake (w : Workstation) (pids : List Nat) : Workstation :=
  let news := pids.filterMap fun pid => (w.machine.exitOf? pid).map fun exit => (pid, exit)
  { w with seen := w.seen ++ news }

def pidsIn (w : Workstation) (files : List String) : List (Option Nat) :=
  files.map fun file => do
    let text ← (w.machine.world.files.readFile w.base (Name.ofString file)).toOption
    (String.ofList (text.toList.filter Char.isDigit)).toNat?

/-- Lets time pass until the tasks have ended that wrote their process numbers to the files. -/
def settle (w : Workstation) (files : List String) : Workstation :=
  let haveEnded (machine : Machine) := ({ w with machine }.pidsIn files).all fun pid =>
    (pid.bind machine.exitOf?).isSome
  let w := { w with machine := w.machine.runUntil haveEnded Machine.maxRequests }
  w.wake ((w.pidsIn files).filterMap id)

def await (pids : List Nat) (w : Workstation) : Workstation :=
  { w with machine := w.machine.awaitAll pids }.wake pids

def system : TaskSystem Workstation where
  spawn := spawn
  ending? w pid := (w.seen.lookup pid).map .exited
  await := await

end Workstation

end Remedy.Host
