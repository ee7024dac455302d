import Remedy.Shell.Cmd
import Remedy.Shell.Posix

namespace Remedy.Shell

def isWindows : Bool := false

inductive Flavor where
  | posix
  | cmd
deriving DecidableEq, Repr

namespace Flavor

def native (isWindows : Bool) : Flavor := if isWindows then .cmd else .posix

def quoteChars : Flavor → List Char → List Char
  | .posix => Posix.quote
  | .cmd => Cmd.quote

def quote (flavor : Flavor) (value : String) : String :=
  String.ofList (flavor.quoteChars value.toList)

end Flavor

end Remedy.Shell
