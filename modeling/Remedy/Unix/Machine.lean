import Remedy.Unix.World

namespace Remedy.Unix

open Files

structure Held where
  description : Nat
  closesOnExec : Bool := false
deriving Repr, Inhabited

structure Process where
  pid : Nat
  parent : Nat := 0
  group : Nat := 0
  program : Program
  cwd : List Name
  umask : Nat := 18
  niceness : Int := 0
  descriptors : List (Nat × Held) := []
  dispositions : List (Signal × Disposition) := []
  noted : List Signal := []
  time : Nat := 0
  isStopped : Bool := false

namespace Process

def held? (p : Process) (fd : Nat) : Option Nat := (p.descriptors.lookup fd).map (·.description)

def freeDescriptor (p : Process) (least : Nat) : Nat :=
  let candidates := List.range (p.descriptors.length + 1)
  ((candidates.map (· + least)).find? fun n => (p.descriptors.lookup n).isNone).getD least

def setDescriptor (p : Process) (fd : Nat) (h : Held) : Process :=
  { p with descriptors := (fd, h) :: p.descriptors.filter (·.1 ≠ fd) }

def dropDescriptor (p : Process) (fd : Nat) : Process :=
  { p with descriptors := p.descriptors.filter (·.1 ≠ fd) }

def disposition (p : Process) (s : Signal) : Disposition :=
  (p.dispositions.lookup s).getD .default

def note (p : Process) (s : Signal) : Process :=
  if p.noted.contains s then p else { p with noted := p.noted ++ [s] }

/-- The process as another program finds it: what was noted by the old one is gone. -/
def renewed (p : Process) (program : Program) : Process :=
  { p with
    program
    descriptors := p.descriptors.filter fun d => !d.2.closesOnExec
    dispositions := p.dispositions.filter fun d => d.2 == .ignore
    noted := [] }

end Process

/-- How the executables of the system are run: by name, arguments and environment. -/
abbrev Loader := String → List String → List (String × String) → Option Program

structure Machine where
  world : World := {}
  processes : List Process := []
  ended : List (Nat × Nat × Exit) := []
  exits : List (Nat × Exit) := []
  nextPid : Nat := 4211
  clock : Nat := 0
  loader : Loader := fun _ _ _ => none

namespace Machine

def requestTime : Nat := 1000

def forkTime : Nat := 150000

def loadTime : Nat := 500000

def exitOf? (m : Machine) (pid : Nat) : Option Exit := m.exits.lookup pid

def insert (p : Process) : List Process → List Process
  | [] => [p]
  | q :: rest => if p.time < q.time then p :: q :: rest else q :: insert p rest

def remove (m : Machine) (pid : Nat) : Machine :=
  { m with processes := m.processes.filter (·.pid ≠ pid) }

def place (m : Machine) (p : Process) : Machine :=
  { m with processes := insert p (m.processes.filter (·.pid ≠ p.pid)) }

def update (m : Machine) (pid : Nat) (f : Process → Process) : Machine :=
  { m with processes := m.processes.map fun p => if p.pid = pid then f p else p }

def process? (m : Machine) (pid : Nat) : Option Process := m.processes.find? (·.pid = pid)

def holds (m : Machine) (number : Nat) (forWriting : Bool) : Bool :=
  m.processes.any fun p => p.descriptors.any fun (_, h) =>
    (m.world.description? h.description).any fun d =>
      d.object == .pipe number && (if forWriting then d.writes else d.reads)

/-- Forgets the open files that nobody holds any more. -/
def collect (m : Machine) : Machine :=
  let isHeld (n : Nat) := m.processes.any fun p => p.descriptors.any (·.2.description == n)
  { m with world := m.world.collect isHeld }

/-- The end of a process. Its children are left without a parent. -/
def finish (m : Machine) (p : Process) (exit : Exit) : Machine :=
  let m := (m.remove p.pid).collect
  let processes := m.processes.map fun q => if q.parent = p.pid then { q with parent := 0 } else q
  let processes := processes.map fun q =>
    if q.pid = p.parent && q.disposition Signal.child == .note then q.note Signal.child else q
  let ended := m.ended.filter (·.2.1 ≠ p.pid)
  if p.parent = 0 then
    { m with processes, ended, exits := (p.pid, exit) :: m.exits }
  else { m with processes, ended := ended ++ [(p.pid, p.parent, exit)] }

def deliver (m : Machine) (p : Process) (s : Signal) : Machine :=
  if s = 0 then m
  else if s = Signal.kill then m.finish p (.signal s)
  else if s = Signal.stop then m.update p.pid ({ · with isStopped := true })
  else
    let m := if s = Signal.resume then m.update p.pid ({ · with isStopped := false }) else m
    match p.disposition s with
    | .ignore => m
    | .note => m.update p.pid (·.note s)
    | .default =>
      if Signal.isHarmless s then m
      else if Signal.isStopping s then m.update p.pid ({ · with isStopped := true })
      else m.finish p (.signal s)

def send (m : Machine) (sender : Process) (target : Int) (s : Signal) :
    Except Errno Unit × Machine :=
  let isMeant (p : Process) : Bool :=
    if target > 0 then p.pid == target.toNat
    else if target = 0 then p.group == sender.group
    else if target = -1 then p.pid != sender.pid
    else p.group == target.natAbs
  let reached := m.processes.filter isMeant
  let (own, others) := reached.partition (·.pid = sender.pid)
  let isEnded := target > 0 && m.ended.any (·.1 = target.toNat)
  if s ≥ Signal.count then (.error .invalid, m)
  else if reached.isEmpty && !isEnded then (.error .noProcess, m)
  else (.ok (), (others ++ own).foldl (fun m p => m.deliver p s) m)

def interpreter? (content : String) : Option (String × Option String) :=
  match content.toList with
  | '#' :: '!' :: rest =>
    let isBlank (c : Char) := c = ' ' || c = '\t'
    let line := (rest.takeWhile (· ≠ '\n')).dropWhile isBlank
    let line := (line.reverse.dropWhile isBlank).reverse
    let path := line.takeWhile (!isBlank ·)
    let argument := (line.dropWhile (!isBlank ·)).dropWhile isBlank
    if path.isEmpty then none
    else some (String.ofList path,
      if argument.isEmpty then none else some (String.ofList argument))
  | _ => none

/-- What an executable file begins with; behind it stands the name of the program. -/
def executableMark : String := "\x7fELF"

def maxArgument : Nat := 131071

def loadProgram (m : Machine) (cwd : List Name) (environment : List (String × String)) :
    Nat → String → List String → Except Errno Program
  | 0, _, _ => .error .tooManyLinks
  | depth + 1, path, arguments => do
    match ← m.world.files.find cwd (FileSystem.path path) with
    | .file n =>
      let content := (m.world.files.inode n)
      if content.mode &&& 73 = 0 then .error .denied
      else if arguments.any fun a => a.length > maxArgument then .error .tooLong
      else
        let text := Text.Octets.ofBytes (content.content.extract 0 256)
        if text.startsWith executableMark then
          let name := String.ofList ((text.toList.drop 4).takeWhile (· ≠ '\n'))
          match m.loader name arguments environment with
          | some program => .ok program
          | none => .error .notExecutable
        else
          match interpreter? text with
          | some (interpreter, argument) =>
            m.loadProgram cwd environment depth interpreter
              (interpreter :: argument.toList ++ path :: arguments.drop 1)
          | none => .error .notExecutable
    | _ => .error .denied

def view (m : Machine) (p : Process) : View where
  files := m.world.files
  cwd := p.cwd
  umask := p.umask
  pid := p.pid
  parent := p.parent
  clock := m.clock
  descriptors := p.descriptors.filterMap fun (n, h) =>
    (m.world.description? h.description).map fun d => (n, d.object.target)

def follow (m : Machine) (source target : List Name) : Machine :=
  { m with processes := m.processes.map fun p =>
    if source.isPrefixOf p.cwd then { p with cwd := target ++ p.cwd.drop source.length } else p }

def changeFiles (m : Machine) (p : Process) (c : Change) : Except Errno Unit × Machine :=
  match m.world.files.apply p.cwd c with
  | .error e => (.error e, m)
  | .ok files =>
    let after := { m with world := { m.world with files } }
    match c with
    | .rename source target =>
      match m.world.files.locate p.cwd (FileSystem.bare source) false,
        m.world.files.locate p.cwd (FileSystem.bare target) false with
      | .ok source, .ok target => (.ok (), after.follow source target)
      | _, _ => (.ok (), after)
    | _ => (.ok (), after)

def findEnded (m : Machine) (p : Process) (awaited : Awaited) : Found × Machine :=
  let isMeant (pid : Nat) : Bool :=
    match awaited with
    | .anyChild => true
    | .child n => pid == n
  match m.ended.find? fun e => e.2.1 == p.pid && isMeant e.1 with
  | some (pid, _, exit) => (.ended pid exit, { m with ended := m.ended.filter (·.1 ≠ pid) })
  | none =>
    if m.processes.any fun q => q.parent == p.pid && isMeant q.pid then (.stillRunning, m)
    else (.nobody, m)

/-- Serves the request of a process; `none` while it has to wait. -/
def serve (m : Machine) (p : Process) : Option Machine :=
  let proceed (m : Machine) (p : Process) (program : Program) : Option Machine :=
    some (m.place { p with program, time := p.time + requestTime })
  let world (m : Machine) (w : World) : Machine := { m with world := w }
  match p.program with
  | .exit status => some (m.finish p (.code (status % 256)))
  | .fork child next =>
    let pid := m.nextPid
    let begun : Process :=
      { p with pid, parent := p.pid, program := child, noted := [], time := p.time + 2 * forkTime }
    let m := { m with nextPid := pid + 1 }.place begun
    some (m.place { p with program := next pid, time := p.time + forkTime })
  | .ask (.read fd count) next =>
    match p.held? fd with
    | none => proceed m p (next (.error .badDescriptor))
    | some n =>
      match m.world.read n count (m.holds · true) with
      | some (answer, w) => proceed (world m w) p (next answer)
      | none => none
  | .ask (.write fd data) next =>
    match p.held? fd with
    | none => proceed m p (next (.error .badDescriptor))
    | some n =>
      match m.world.write n data (m.holds · false) with
      | none => none
      | some (.ok taken, w) =>
        if taken < data.size then
          proceed (world m w) p (.ask (.write fd (data.extract taken data.size)) next)
        else proceed (world m w) p (next (.ok ()))
      | some (.error .brokenPipe, w) =>
        let m := world m w
        if p.disposition Signal.brokenPipe = .default then
          some (m.finish p (.signal Signal.brokenPipe))
        else proceed m p (next (.error .brokenPipe))
      | some (.error e, w) => proceed (world m w) p (next (.error e))
  | .ask (.open path opening) next =>
    match m.world.openPath p.cwd p.umask path opening p.held? (m.holds · false) with
    | none => none
    | some (.error e, w) => proceed (world m w) p (next (.error e))
    | some (.ok n, w) =>
      let fd := p.freeDescriptor 0
      proceed (world m w) (p.setDescriptor fd ⟨n, false⟩) (next (.ok fd))
  | .ask (.close fd) next =>
    match p.held? fd with
    | none => proceed m p (next (.error .badDescriptor))
    | some _ =>
      let p := p.dropDescriptor fd
      proceed (m.place p).collect p (next (.ok ()))
  | .ask (.copy fd least closesOnExec) next =>
    match p.held? fd with
    | none => proceed m p (next (.error .badDescriptor))
    | some n =>
      let copy := p.freeDescriptor least
      proceed m (p.setDescriptor copy ⟨n, closesOnExec⟩) (next (.ok copy))
  | .ask (.copyTo fd target) next =>
    match p.held? fd with
    | none => proceed m p (next (.error .badDescriptor))
    | some n =>
      let p := p.setDescriptor target ⟨n, false⟩
      proceed (m.place p).collect p (next (.ok ()))
  | .ask .pipe next =>
    let (r, s, w) := m.world.addPipeEnds
    let a := p.freeDescriptor 0
    let p := p.setDescriptor a ⟨r, false⟩
    let b := p.freeDescriptor 0
    proceed (world m w) (p.setDescriptor b ⟨s, false⟩) (next (a, b))
  | .ask (.seek fd offset whence) next =>
    match p.held? fd with
    | none => proceed m p (next (.error .badDescriptor))
    | some n =>
      let (answer, w) := m.world.seek n offset whence
      proceed (world m w) p (next answer)
  | .ask .look next => proceed m p (next (m.view p))
  | .ask (.change c) next =>
    let (answer, m) := m.changeFiles p c
    proceed m ((m.process? p.pid).elim p fun q => { p with cwd := q.cwd }) (next answer)
  | .ask (.goTo path) next =>
    match m.world.files.locate p.cwd (FileSystem.path path) true with
    | .error e => proceed m p (next (.error e))
    | .ok location =>
      match m.world.files.root.get? location with
      | some (.directory ..) => proceed m { p with cwd := location } (next (.ok ()))
      | some _ => proceed m p (next (.error .notDirectory))
      | none => proceed m p (next (.error .missing))
  | .ask (.setUmask mask) next => proceed m { p with umask := mask } (next ())
  | .ask (.wait awaited patience) next =>
    match m.findEnded p awaited with
    | (.stillRunning, m) =>
      match patience with
      | .always => none
      | .untilSignal => if p.noted.isEmpty then none else proceed m p (next .interrupted)
      | .none => proceed m p (next .stillRunning)
    | (found, m) => proceed m p (next found)
  | .ask (.kill target s) next =>
    let (answer, after) := m.send p target s
    match after.process? p.pid with
    | none => some after
    | some q => some (after.place { q with program := next answer, time := p.time + requestTime })
  | .ask (.dispose s d) next =>
    let old := p.disposition s
    let dispositions := (s, d) :: p.dispositions.filter (·.1 ≠ s)
    proceed m { p with dispositions } (next old)
  | .ask .takeSignals next => proceed m { p with noted := [] } (next p.noted)
  | .ask .lead next => proceed m { p with group := p.pid } (next ())
  | .ask (.renice n) next =>
    let niceness := max (-20) (min 19 (p.niceness + n))
    proceed m { p with niceness } (next niceness)
  | .ask (.sleep nanoseconds) next =>
    some (m.place { p with program := next (), time := p.time + requestTime + nanoseconds })
  | .ask .pause next => proceed m p (next ())
  | .ask (.exec path arguments environment) next =>
    match m.loadProgram p.cwd environment 5 path arguments with
    | .ok program =>
      some (m.place { p.renewed program with time := p.time + loadTime }).collect
    | .error e => proceed m p (next e)

def epoch : Nat := 1767225600000000000

def serveFirst (m : Machine) : List Process → Option Machine
  | [] => none
  | p :: rest =>
    if p.isStopped then m.serveFirst rest
    else
      let now := max m.clock p.time
      let m' := { m with
        clock := now
        world := { m.world with files := { m.world.files with now := epoch + now } } }
      match m'.serve { p with time := now } with
      | some after => some after
      | none => m.serveFirst rest

def step (m : Machine) : Option Machine := m.serveFirst m.processes

/-- Serves until `done` holds, nothing can go on or the fuel is used up. -/
def runUntil (done : Machine → Bool) : Nat → Machine → Machine
  | 0, m => m
  | fuel + 1, m =>
    if done m then m
    else
      match m.step with
      | some m => runUntil done fuel m
      | none => m

def maxRequests : Nat := 4000000

/-- The time after which a machine counts as idle if nothing is to be done in it. -/
def idleTime : Nat := 2000000

/-- Serves until all processes wait or sleep. -/
def runWhileBusy : Nat → Machine → Machine
  | 0, m => m
  | fuel + 1, m =>
    match m.step with
    | some after => if after.clock > m.clock + idleTime then m else runWhileBusy fuel after
    | none => m

/-- Starts a program as a process without input and runs it as far as it goes at once. -/
def start (m : Machine) (cwd : List Name) (program : Program) : Machine × Nat :=
  let pid := m.nextPid
  let add (w : World) (object : Object) (reads : Bool) : Nat × World :=
    w.addDescription { object, reads, writes := !reads }
  let (input, w) := add m.world (.device .null) true
  let (output, w) := add w (.sink false) false
  let (errors, w) := add w (.sink true) false
  let p : Process := {
    pid, group := pid, program, cwd, time := m.clock
    descriptors := [(0, ⟨input, false⟩), (1, ⟨output, false⟩), (2, ⟨errors, false⟩)] }
  ({ m with world := w, nextPid := pid + 1 }.place p |>.runWhileBusy maxRequests, pid)

def awaitAll (m : Machine) (pids : List Nat) : Machine :=
  m.runUntil (fun m => pids.all fun pid => (m.exitOf? pid).isSome) maxRequests

end Machine

end Remedy.Unix
