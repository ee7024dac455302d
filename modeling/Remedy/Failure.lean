import Remedy.Registry.Error

namespace Remedy

inductive Failure where
  | search (error : Registry.SearchError)
  | invalidProject (detail : String)
  | enumeration (detail : String)
  | launch (task reason : String)
  | io (detail : String)
deriving DecidableEq, Repr

def Failure.message : Failure → String
  | .search error => error.message
  | .invalidProject detail => "invalid project path: " ++ detail
  | .enumeration detail => "failed to enumerate projects: " ++ detail
  | .launch task reason => "failed to launch task '" ++ task ++ "': " ++ reason
  | .io detail => "IO error: " ++ detail

end Remedy
