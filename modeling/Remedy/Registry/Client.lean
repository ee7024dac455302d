import Remedy.Registry.Settings
import Remedy.Registry.Error

namespace Remedy.Registry

structure Response where
  status : Nat
  body : List UInt8
deriving DecidableEq, Repr

def isHeaderText (s : String) : Bool :=
  s.toList.all fun c => c == '\t' || (0x20 ≤ c.toNat && c.toNat ≠ 0x7F)

/-- A client; its user agent may stand in a request. -/
structure Client where
  settings : Settings
  headerText : isHeaderText settings.userAgent = true

namespace Client

def ofSettings? (settings : Settings) : Option Client :=
  if h : isHeaderText settings.userAgent then some ⟨settings, h⟩ else none

def interpret (client : Client) (url : String) (response : Response) :
    Except SearchError (List Candidate) :=
  if 200 ≤ response.status ∧ response.status < 300 then
    match candidatesOfBody? client.settings.maxResults (Text.Utf8.decode response.body) with
    | some candidates => .ok candidates
    | none => .error (.invalidResponse "")
  else .error (.status response.status url)

/-- A lookup over a transport, which gives the response to an address or says why there is none. -/
def query (client : Client) (transport : String → Except String Response) (query : String) :
    Except SearchError (List Candidate) :=
  if Text.allBlank query then .error .emptyQuery
  else
    let url := client.settings.queryUrl query
    match transport url with
    | .ok response => client.interpret url response
    | .error detail => .error (.transport detail)

end Client

end Remedy.Registry
