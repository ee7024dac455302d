import Remedy.CommandLine.Help
import Remedy.Host.Installation
import Remedy.Host.Terminal
import Remedy.Json.Writer
import Remedy.Registry.Client
import Remedy.Service

namespace Remedy.CommandLine

open Registry (Client Response SearchError)
open Files Workspace Host

/-- What a run of the program sees. -/
structure Surroundings where
  environment : Environment
  fs : FileSystem
  cwd : List Name
  input : String
  transport : String → Except String Response

structure Report where
  /-- `none` if the run does not end. -/
  exitCode : Option Nat
  output : String := ""
  errors : String := ""
deriving DecidableEq, Repr

def Arguments.search (a : Arguments) (env : Environment) : Registry.Settings :=
  let start := match a.registryUrl with
    | some url => Registry.Settings.ofUrl url
    | none => .ofEnvironment env
  a.maxResults.elim start start.withMaxResults

def Arguments.configuration (a : Arguments) (env : Environment) : Configuration :=
  let c := (Configuration.ofEnvironment env).withSearch (a.search env)
  let c := a.tool.elim c c.withTool
  a.manifestExtension.elim c c.withManifestExtension

def failed (reason : String) : Report := ⟨some 1, "", "Error: " ++ reason ++ "\n"⟩

def isInput (path : String) : Bool := Path.components path = Path.components "-"

def readDiagnostics (s : Surroundings) (path : String) : Except String (List Diagnostic) := do
  let text ←
    if isInput path then .ok s.input
    else
      match s.fs.readFile s.cwd (Name.ofString path) with
      | .ok text => .ok (Text.Octets.display text)
      | .error e => .error ("Failed to read diagnostics from " ++ path ++ ": " ++ e.report)
  match (Json.ofText? text).bind Diagnostic.listOfJson? with
  | some ds => .ok ds
  | none => .error "Diagnostics must be a JSON array of diagnostics"

def terminal (s : Surroundings) (a : Arguments) (client : Client) : Terminal where
  runner := {
    directory := some a.workspace
    state := {
      base := s.cwd
      machine := { world := { files := s.fs }, loader := Installation.loader } } }
  searches := [client.query s.transport]

def locator (a : Arguments) (c : Configuration) : Locator :=
  .ofExtension (some a.workspace) c.manifestExtension

def exitLine (e : TaskExit) : String :=
  match e.exitCode with
  | some code => e.taskName ++ " exited with code " ++ toString code ++ "\n"
  | none => e.taskName ++ " was terminated\n"

/-- Waits for what was installed and tells how it ended, if it does. -/
def finish (t : Terminal) : Flow.Outcome → Report
  | .installed _ =>
    let (reply, runner) := t.runner.waitAll Workstation.system
    let t := { t with runner }
    match reply with
    | some exits =>
      let t := t.print (String.join (exits.map exitLine))
      ⟨some 0, t.output, t.errors⟩
    | none => ⟨none, t.output, t.errors⟩
  | .aborted _ => ⟨some 0, t.output, t.errors⟩

def hold (s : Surroundings) (a : Arguments) (c : Configuration) (client : Client) (heading : String)
    (d : Dialogue Flow.Outcome) : Report :=
  let picker := if a.pickFirst then Picker.firstChoice else .interactive
  let start := (terminal s a client).print heading
  let transcript := d.run (Terminal.host picker (locator a c)) start
  finish transcript.host transcript.result

def withService (c : Configuration) (act : Service → Client → Report) : Report :=
  match Client.ofSettings? c.search with
  | some client => act (.activate c) client
  | none => failed "Failed to create registry client"

def withDiagnostics (s : Surroundings) (a : Arguments) (act : List Diagnostic → Report) : Report :=
  match readDiagnostics s a.diagnostics with
  | .ok ds => act ds
  | .error reason => failed reason

def printActions (s : Surroundings) (a : Arguments) (c : Configuration) : Report :=
  withDiagnostics s a fun ds => withService c fun service _ =>
    let actions := service.codeActions a.language ds
    ⟨some 0, (Json.array (actions.map CodeAction.toJson)).pretty 0 ++ "\n", ""⟩

def fix (s : Surroundings) (a : Arguments) (c : Configuration) : Report :=
  withDiagnostics s a fun ds => withService c fun service client =>
    let offered := (service.codeActions c.languageId ds).head?
    hold s a c client (offered.elim "" (·.title ++ "\n")) (service.resolve ds)

def search (s : Surroundings) (a : Arguments) (c : Configuration) : Report :=
  withService c fun service client =>
    hold s a c client "" (service.executeCommand searchCommand [.string a.symbol])

def listProjects (s : Surroundings) (a : Arguments) (c : Configuration) : Report :=
  match (locator a c).scan s.fs s.cwd with
  | .error failure => failed ("Failed to scan " ++ a.workspace ++ ": " ++ failure.message)
  | .ok [] =>
    ⟨some 0, "No *." ++ c.manifestExtension ++ " files under " ++ a.workspace ++ "\n", ""⟩
  | .ok projects => ⟨some 0, String.join (projects.map (·.text ++ "\n")), ""⟩

def runArguments (s : Surroundings) (a : Arguments) : Report :=
  let c := a.configuration s.environment
  match a.command with
  | .actions => printActions s a c
  | .fix => fix s a c
  | .search => search s a c
  | .projects => listProjects s a c

def versionLine : String := programName ++ " 0.1.0\n"

def run (s : Surroundings) (args : List String) : Report :=
  match parse s.environment args with
  | .ok a => runArguments s a
  | .error .malformed => ⟨some 2, "", Help.refusal⟩
  | .error .version => ⟨some 0, versionLine, ""⟩
  | .error (.help topic) => ⟨some 0, Help.text s.environment topic, ""⟩

end Remedy.CommandLine
