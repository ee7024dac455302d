import Remedy.Files.Change
import Remedy.Unix.Signal

namespace Remedy.Unix

open Files

structure Opening where
  reads : Bool := false
  writes : Bool := false
  create : Bool := false
  exclusive : Bool := false
  truncate : Bool := false
  append : Bool := false
  mode : Nat := 438
deriving Repr

namespace Opening

def input : Opening := { reads := true }

def output : Opening := { writes := true, create := true, truncate := true }

def appending : Opening := { writes := true, create := true, append := true }

end Opening

inductive Whence where
  | start
  | current
  | finish
deriving DecidableEq, Repr

inductive Target where
  | file (inode : Nat)
  | directory (location : List Name)
  | pipe
  | device (device : Device)
  | sink
deriving Repr

structure View where
  files : FileSystem
  cwd : List Name
  umask : Nat
  pid : Nat
  parent : Nat
  clock : Nat
  descriptors : List (Nat × Target)

inductive Awaited where
  | anyChild
  | child (pid : Nat)
deriving DecidableEq, Repr

inductive Patience where
  | none
  | untilSignal
  | always
deriving DecidableEq, Repr

inductive Found where
  | nobody
  | stillRunning
  | interrupted
  | ended (pid : Nat) (exit : Exit)
deriving DecidableEq, Repr

inductive Request where
  | read (fd : Nat) (count : Nat)
  | write (fd : Nat) (data : ByteArray)
  | open (path : String) (opening : Opening)
  | close (fd : Nat)
  | copy (fd : Nat) (least : Nat) (closesOnExec : Bool)
  | copyTo (fd : Nat) (target : Nat)
  | pipe
  | seek (fd : Nat) (offset : Int) (whence : Whence)
  | look
  | change (c : Change)
  | goTo (path : String)
  | setUmask (mask : Nat)
  | wait (awaited : Awaited) (patience : Patience)
  | kill (pid : Int) (signal : Signal)
  | dispose (signal : Signal) (d : Disposition)
  | takeSignals
  | lead
  | renice (n : Int)
  | sleep (nanoseconds : Nat)
  | pause
  | exec (path : String) (arguments : List String) (environment : List (String × String))

/-- What is answered; of a program that another one replaces nothing is left to hear it. -/
@[reducible] def Request.Answer : Request → Type
  | .read .. => Except Errno ByteArray
  | .write .. => Except Errno Unit
  | .open .. | .copy .. => Except Errno Nat
  | .close _ | .copyTo .. => Except Errno Unit
  | .pipe => Nat × Nat
  | .seek .. => Except Errno Nat
  | .look => View
  | .change _ | .goTo _ => Except Errno Unit
  | .setUmask _ => Unit
  | .wait .. => Found
  | .kill .. => Except Errno Unit
  | .dispose .. => Disposition
  | .takeSignals => List Signal
  | .renice _ => Int
  | .lead | .sleep _ | .pause => Unit
  | .exec .. => Errno

inductive Program where
  | exit (status : Nat)
  | ask (request : Request) (next : request.Answer → Program)
  | fork (child : Program) (next : Nat → Program)

/-- A step of a program that yields a value to what comes after it. -/
def Act (α : Type) : Type := (α → Program) → Program

namespace Act

instance : Monad Act where
  pure a next := next a
  bind act f next := act fun a => f a next

instance : LawfulMonad Act :=
  LawfulMonad.mk' Act (fun _ => rfl) (fun _ _ => rfl) (fun _ _ _ => rfl)

def ask (r : Request) : Act r.Answer := fun next => .ask r next

def fork (child : Program) : Act Nat := fun next => .fork child next

def look : Act View := ask .look

def writeTo (fd : Nat) (s : String) : Act (Except Errno Unit) :=
  if s = "" then pure (.ok ()) else ask (.write fd (Text.Octets.toBytes s))

/-- Repeats a step until it yields a result, at most so many times. -/
def repeatUntil (step : σ → Act (σ ⊕ β)) (otherwise : σ → β) : Nat → σ → Act β
  | 0, s => pure (otherwise s)
  | n + 1, s => do
    match ← step s with
    | .inl s => repeatUntil step otherwise n s
    | .inr b => pure b

def limit : Nat := 100000000

def block : Nat := 65536

def readAll (fd : Nat) : Act (Except Errno String) :=
  let step (got : ByteArray) : Act (ByteArray ⊕ Except Errno String) := do
    match ← ask (.read fd block) with
    | .error e => pure (.inr (.error e))
    | .ok data =>
      if data.isEmpty then pure (.inr (.ok (Text.Octets.ofBytes got)))
      else pure (.inl (got ++ data))
  repeatUntil step (fun got => .ok (Text.Octets.ofBytes got)) limit .empty

end Act

end Remedy.Unix
