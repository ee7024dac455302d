namespace Remedy.Unix

abbrev Signal := Nat

namespace Signal

def hangUp : Signal := 1
def interrupt : Signal := 2
def quit : Signal := 3
def kill : Signal := 9
def brokenPipe : Signal := 13
def terminate : Signal := 15
def child : Signal := 17
def resume : Signal := 18
def stop : Signal := 19

/-- The names, in the order of the numbers; the first one is no signal but the end of a shell. -/
def names : List String :=
  ["EXIT", "HUP", "INT", "QUIT", "ILL", "TRAP", "ABRT", "BUS", "FPE", "KILL", "USR1", "SEGV",
    "USR2", "PIPE", "ALRM", "TERM", "STKFLT", "CHLD", "CONT", "STOP", "TSTP", "TTIN", "TTOU", "URG",
    "XCPU", "XFSZ", "VTALRM", "PROF", "WINCH", "POLL", "PWR", "SYS"]

/-- How many signals there are, with those that have no use of their own. -/
def count : Nat := 65

def name (s : Signal) : String :=
  match names[s]? with
  | some name => name
  | none =>
    if s = 34 then "RTMIN"
    else if s = 64 then "RTMAX"
    else if 34 < s ∧ s < 50 then "RTMIN+" ++ toString (s - 34)
    else if 50 ≤ s ∧ s < 64 then "RTMAX-" ++ toString (64 - s)
    else toString s

def ofName? (s : String) : Option Signal :=
  match names.findIdx? (· == s) with
  | some n => some n
  | none => ((List.range 31).map (· + 34)).find? (name · == s)

def description (s : Signal) : String :=
  match s with
  | 1 => "Hangup"
  | 2 => "Interrupt"
  | 3 => "Quit"
  | 4 => "Illegal instruction"
  | 5 => "Trace/breakpoint trap"
  | 6 => "Aborted"
  | 7 => "Bus error"
  | 8 => "Floating point exception"
  | 9 => "Killed"
  | 10 => "User defined signal 1"
  | 11 => "Segmentation fault"
  | 12 => "User defined signal 2"
  | 13 => "Broken pipe"
  | 14 => "Alarm clock"
  | 15 => "Terminated"
  | 16 => "Stack fault"
  | 17 => "Child exited"
  | 18 => "Continued"
  | 19 => "Stopped (signal)"
  | 20 => "Stopped"
  | 21 => "Stopped (tty input)"
  | 22 => "Stopped (tty output)"
  | 23 => "Urgent I/O condition"
  | 24 => "CPU time limit exceeded"
  | 25 => "File size limit exceeded"
  | 26 => "Virtual timer expired"
  | 27 => "Profiling timer expired"
  | 28 => "Window changed"
  | 29 => "I/O possible"
  | 30 => "Power failure"
  | 31 => "Bad system call"
  | _ => "Real-time signal " ++ toString (s - 34)

/-- Whether a process that does nothing about the signal goes on. -/
def isHarmless (s : Signal) : Bool := s == 0 || s == child || s == resume || s == 23 || s == 28

/-- Whether a process that does nothing about the signal stands still until it is resumed. -/
def isStopping (s : Signal) : Bool := s == stop || s == 20 || s == 21 || s == 22

end Signal

inductive Disposition where
  | default
  | ignore
  | note
deriving DecidableEq, Repr

inductive Exit where
  | code (n : Nat)
  | signal (s : Signal)
deriving DecidableEq, Repr

def Exit.status : Exit → Nat
  | .code n => n
  | .signal s => 128 + s

end Remedy.Unix
