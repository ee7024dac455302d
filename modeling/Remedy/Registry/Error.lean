namespace Remedy.Registry

inductive SearchError where
  | emptyQuery
  | transport (detail : String)
  | status (code : Nat) (url : String)
  | invalidResponse (detail : String)
deriving DecidableEq, Repr

def SearchError.message : SearchError → String
  | .emptyQuery => "search query is empty"
  | .transport detail => "HTTP error: " ++ detail
  | .status code url => "registry returned HTTP " ++ toString code ++ " for " ++ url
  | .invalidResponse detail => "invalid search response: " ++ detail

end Remedy.Registry
