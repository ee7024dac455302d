import Remedy.Registry.Page
import Remedy.Text.Percent
import Remedy.Environment

namespace Remedy.Registry

structure Settings where
  /-- The base address of the registry; `/query` is appended to it. -/
  registryUrl : String
  maxResults : Nat
  userAgent : String
  /-- The limit of a whole request; zero is none. -/
  timeoutSecs : Nat
deriving DecidableEq, Repr

namespace Settings

def defaultRegistryUrl : String := "https://azuresearch-usnc.nuget.org"

def defaultUserAgent : String := "nuget-quickfix/0.1.0"

/-- The cap that an environment sets; what is no positive number sets none. -/
def capOf (env : Environment) : Nat :=
  match env.maxResults.bind Environment.word64? with
  | some (n + 1) => clampCap (n + 1)
  | _ => maxCandidates

def ofEnvironment (env : Environment) : Settings where
  registryUrl := env.searchUrl.getD defaultRegistryUrl
  maxResults := capOf env
  userAgent := defaultUserAgent
  timeoutSecs := 15

/-- Settings for one registry; no environment has a part in them. -/
def ofUrl (registryUrl : String) : Settings where
  registryUrl
  maxResults := maxCandidates
  userAgent := defaultUserAgent
  timeoutSecs := 15

def withMaxResults (s : Settings) (n : Nat) : Settings := { s with maxResults := clampCap n }

def withTimeoutSecs (s : Settings) (n : Nat) : Settings := { s with timeoutSecs := n }

def base (s : Settings) : String :=
  String.ofList (Text.dropEnd (· == '/') s.registryUrl.toList)

def queryUrl (s : Settings) (query : String) : String :=
  s.base ++ "/query?q=" ++ Text.Percent.encode query

def ofJson? (j : Json) : Option Settings := do
  let field ← j.fields? ["registry_url", "max_results", "user_agent", "timeout_secs"]
  return {
    registryUrl := ← Json.required Json.string? (field "registry_url")
    maxResults := ← Json.required (Json.nat? 64) (field "max_results")
    userAgent := ← Json.required Json.string? (field "user_agent")
    timeoutSecs := ← Json.required (Json.nat? 64) (field "timeout_secs") }

def toJson (s : Settings) : Json :=
  .object [
    ("registry_url", .string s.registryUrl), ("max_results", Json.ofNat s.maxResults),
    ("user_agent", .string s.userAgent), ("timeout_secs", Json.ofNat s.timeoutSecs)]

end Settings

end Remedy.Registry
