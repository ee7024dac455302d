import Remedy.Power
import Remedy.Unix.Program

namespace Remedy.Unix

open Files

inductive Object where
  | file (inode : Nat)
  | directory (location : List Name)
  | pipe (number : Nat)
  | device (device : Device)
  | sink (isErrors : Bool)
deriving DecidableEq, Repr

def Object.target : Object → Target
  | .file n => .file n
  | .directory location => .directory location
  | .pipe _ => .pipe
  | .device d => .device d
  | .sink _ => .sink

/-- An open file; descriptors of several processes may share it. -/
structure Description where
  object : Object
  reads : Bool
  writes : Bool
  append : Bool := false
  offset : Nat := 0
deriving Repr

structure Pipe where
  content : ByteArray := .empty
  /-- Whether it has ever been open for writing; before that its end is not in sight. -/
  isBegun : Bool := true
deriving Inhabited

structure World where
  files : FileSystem := {}
  descriptions : List (Nat × Description) := []
  pipes : List (Nat × Pipe) := []
  fifos : List (Nat × Nat) := []
  fresh : Nat := 0
  output : ByteArray := .empty
  errors : ByteArray := .empty
  seed : Nat := 20240229

namespace World

def pipeSize : Nat := 65536

def description? (w : World) (n : Nat) : Option Description := w.descriptions.lookup n

def modifyDescription (w : World) (n : Nat) (f : Description → Description) : World :=
  { w with descriptions := w.descriptions.map fun (k, d) => if k = n then (k, f d) else (k, d) }

def addDescription (w : World) (d : Description) : Nat × World :=
  (w.fresh, { w with descriptions := (w.fresh, d) :: w.descriptions, fresh := w.fresh + 1 })

def pipe (w : World) (n : Nat) : Pipe := (w.pipes.lookup n).getD {}

def modifyPipe (w : World) (n : Nat) (f : Pipe → Pipe) : World :=
  { w with pipes := w.pipes.map fun (k, p) => if k = n then (k, f p) else (k, p) }

def addPipe (w : World) (p : Pipe) : Nat × World :=
  (w.fresh, { w with pipes := (w.fresh, p) :: w.pipes, fresh := w.fresh + 1 })

def addPipeEnds (w : World) : Nat × Nat × World :=
  let (number, w) := w.addPipe {}
  let (r, w) := w.addDescription { object := .pipe number, reads := true, writes := false }
  let (s, w) := w.addDescription { object := .pipe number, reads := false, writes := true }
  (r, s, w)

def pipeOf (w : World) (inode : Nat) : Nat × World :=
  match w.fifos.lookup inode with
  | some number => (number, w)
  | none =>
    let (number, w) := w.addPipe { isBegun := false }
    (number, { w with fifos := (inode, number) :: w.fifos })

/-- The world without the open files that nobody holds, and without their pipes. -/
def collect (w : World) (isHeld : Nat → Bool) : World :=
  let descriptions := w.descriptions.filter fun d => isHeld d.1
  let pipes := w.pipes.filter fun (number, _) =>
    descriptions.any fun (_, d) => d.object == .pipe number
  let fifos := w.fifos.filter fun (_, number) => pipes.any (·.1 == number)
  { w with descriptions, pipes, fifos }

def randomBytes (w : World) (count : Nat) : ByteArray × World :=
  (List.range count).foldl (fun (bytes, w) _ =>
    let seed := (w.seed * 6364136223846793005 + 1442695040888963407) % twoTo 64
    (bytes.push (UInt8.ofNat (seed / twoTo 33)), { w with seed })) (ByteArray.empty, w)

/-- What a read of an open file gives; `none` while it has to wait. -/
def read (w : World) (n : Nat) (count : Nat) (hasWriter : Nat → Bool) :
    Option (Except Errno ByteArray × World) :=
  match w.description? n with
  | none => some (.error .badDescriptor, w)
  | some d =>
    if !d.reads then some (.error .badDescriptor, w) else
    match d.object with
    | .file inode =>
      let content := (w.files.inode inode).content
      let data := content.extract d.offset (d.offset + count)
      some (.ok data, w.modifyDescription n fun d => { d with offset := d.offset + data.size })
    | .directory _ => some (.error .isDirectory, w)
    | .pipe number =>
      let p := w.pipe number
      if p.content.isEmpty then
        if hasWriter number || !p.isBegun then none else some (.ok .empty, w)
      else
        let data := p.content.extract 0 count
        some (.ok data, w.modifyPipe number fun p =>
          { p with content := p.content.extract count p.content.size })
    | .device .null => some (.ok .empty, w)
    | .device .zero | .device .full => some (.ok ⟨Array.replicate count 0⟩, w)
    | .device .random =>
      let (data, w) := w.randomBytes count
      some (.ok data, w)
    | .device _ | .sink _ => some (.error .badDescriptor, w)

/-- What a write to an open file gives: how much of it was taken; `none` while it has to wait. -/
def write (w : World) (n : Nat) (data : ByteArray) (hasReader : Nat → Bool) :
    Option (Except Errno Nat × World) :=
  match w.description? n with
  | none => some (.error .badDescriptor, w)
  | some d =>
    if !d.writes then some (.error .badDescriptor, w) else
    match d.object with
    | .file inode =>
      let offset := if d.append then (w.files.inode inode).content.size else d.offset
      let w := w.modifyDescription n fun d => { d with offset := offset + data.size }
      some (.ok data.size, { w with files := w.files.writeAt inode offset data })
    | .pipe number =>
      if !hasReader number then some (.error .brokenPipe, w)
      else
        let room := pipeSize - (w.pipe number).content.size
        if room = 0 then none
        else
          let taken := data.extract 0 room
          some (.ok taken.size,
            w.modifyPipe number fun p => { p with content := p.content ++ taken })
    | .device .full => some (.error .noSpace, w)
    | .sink false => some (.ok data.size, { w with output := w.output ++ data })
    | .sink true => some (.ok data.size, { w with errors := w.errors ++ data })
    | .device _ => some (.ok data.size, w)
    | .directory _ => some (.error .badDescriptor, w)

/-- Opens what a path leads to; `none` while it has to wait. `held` finds the open file behind a
descriptor of the process that asks. -/
def openPath (w : World) (cwd : List Name) (umask : Nat) (path : String) (o : Opening)
    (held : Nat → Option Nat) (hasReader : Nat → Bool) :
    Option (Except Errno Nat × World) :=
  let done (object : Object) (w : World) : Option (Except Errno Nat × World) :=
    let (n, w) := w.addDescription
      { object, reads := o.reads, writes := o.writes, append := o.append }
    some (.ok n, w)
  let openFile (inode : Nat) (w : World) :=
    done (.file inode) (if o.truncate then { w with files := w.files.resize inode 0 } else w)
  -- what must be new must not be a link either
  match w.files.locate cwd (FileSystem.path path) (!(o.create && o.exclusive)) with
  | .error e =>
    -- only a directory can be made where a slash stands at the end
    let isNew := o.create && (FileSystem.path path).getLast? = some FileSystem.slash &&
      (match w.files.locate cwd (FileSystem.bare path) true with
      | .ok location => (w.files.root.get? location).isNone
      | .error _ => false)
    some (.error (if isNew then .isDirectory else e), w)
  | .ok location =>
    match w.files.root.get? location with
    | none =>
      if o.create then
        let mode := o.mode &&& (4095 ^^^ (umask &&& 4095))
        let (inode, files) := w.files.createFile location mode
        done (.file inode) { w with files }
      else some (.error .missing, w)
    | some node =>
      if o.create && o.exclusive then some (.error .exists, w)
      else
        match node with
        | .file inode => openFile inode w
        | .directory .. =>
          if o.writes || o.create then some (.error .isDirectory, w)
          else done (.directory location) w
        | .link _ => some (.error .tooManyLinks, w)
        | .device .terminal => some (.error .noDevice, w)
        | .device (.descriptor n) =>
          match held n with
          | none => some (.error .missing, w)
          | some n =>
            match w.description? n with
            | some ⟨.file inode, _, _, _, _⟩ => openFile inode w
            | some d => done d.object w
            | none => some (.error .missing, w)
        | .device d => done (.device d) w
        | .fifo inode =>
          let (number, w) := w.pipeOf inode
          if o.writes && !o.reads && !hasReader number then none
          else if o.writes then
            done (.pipe number) (w.modifyPipe number ({ · with isBegun := true }))
          else done (.pipe number) w

def seek (w : World) (n : Nat) (offset : Int) (whence : Whence) : Except Errno Nat × World :=
  match w.description? n with
  | none => (.error .badDescriptor, w)
  | some d =>
    match d.object with
    | .file inode =>
      let base : Nat := match whence with
        | .start => 0
        | .current => d.offset
        | .finish => (w.files.inode inode).content.size
      let target := offset + base
      if target < 0 then (.error .invalid, w)
      else (.ok target.toNat, w.modifyDescription n ({ · with offset := target.toNat }))
    | .device .null | .device .zero | .directory _ => (.ok 0, w)
    | _ => (.error .notSeekable, w)

end World

end Remedy.Unix
