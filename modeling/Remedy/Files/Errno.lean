namespace Remedy.Files

inductive Errno where
  | notPermitted
  | missing
  | noProcess
  | interrupted
  | noDevice
  | tooLong
  | notExecutable
  | badDescriptor
  | noChild
  | denied
  | busy
  | exists
  | crossDevice
  | notDirectory
  | isDirectory
  | invalid
  | notTerminal
  | noSpace
  | notSeekable
  | brokenPipe
  | nameTooLong
  | notEmpty
  | tooManyLinks
deriving DecidableEq, Repr

namespace Errno

def number : Errno → Nat
  | .notPermitted => 1
  | .missing => 2
  | .noProcess => 3
  | .interrupted => 4
  | .noDevice => 6
  | .tooLong => 7
  | .notExecutable => 8
  | .badDescriptor => 9
  | .noChild => 10
  | .denied => 13
  | .busy => 16
  | .exists => 17
  | .crossDevice => 18
  | .notDirectory => 20
  | .isDirectory => 21
  | .invalid => 22
  | .notTerminal => 25
  | .noSpace => 28
  | .notSeekable => 29
  | .brokenPipe => 32
  | .nameTooLong => 36
  | .notEmpty => 39
  | .tooManyLinks => 40

def message : Errno → String
  | .notPermitted => "Operation not permitted"
  | .missing => "No such file or directory"
  | .noProcess => "No such process"
  | .interrupted => "Interrupted system call"
  | .noDevice => "No such device or address"
  | .tooLong => "Argument list too long"
  | .notExecutable => "Exec format error"
  | .badDescriptor => "Bad file descriptor"
  | .noChild => "No child processes"
  | .denied => "Permission denied"
  | .busy => "Device or resource busy"
  | .exists => "File exists"
  | .crossDevice => "Invalid cross-device link"
  | .notDirectory => "Not a directory"
  | .isDirectory => "Is a directory"
  | .invalid => "Invalid argument"
  | .notTerminal => "Inappropriate ioctl for device"
  | .noSpace => "No space left on device"
  | .notSeekable => "Illegal seek"
  | .brokenPipe => "Broken pipe"
  | .nameTooLong => "File name too long"
  | .notEmpty => "Directory not empty"
  | .tooManyLinks => "Too many levels of symbolic links"

def report (e : Errno) : String := e.message ++ " (os error " ++ toString e.number ++ ")"

end Errno

end Remedy.Files
