import Remedy.Configuration
import Remedy.Diagnostic.Action
import Remedy.Flow.Stages

namespace Remedy

inductive Registration where
  | codeActions (languageId : String)
  | command (id : String)
deriving DecidableEq, Repr

structure Service where
  configuration : Configuration
  registrations : List Registration
deriving DecidableEq, Repr

namespace Service

def activate (configuration : Configuration) : Service where
  configuration
  registrations := [.codeActions configuration.languageId, .command searchCommand]

def deactivate (s : Service) : Service := { s with registrations := [] }

def isActive (s : Service) : Bool := !s.registrations.isEmpty

/-- The code actions for diagnostics of a document in a language: at most one. -/
def codeActions (s : Service) (languageId : String) (ds : List Diagnostic) : List CodeAction :=
  if s.isActive ∧ languageId = s.configuration.languageId then
    ((Diagnostic.match? ds).map (·.toCodeAction)).toList
  else []

/-- The symbol that arguments carry: the first one, a text, without the blanks around it. -/
def symbolOf? (arguments : List Json) : Option String := do
  let symbol := Text.trim (← (← arguments.head?).string?)
  guard (symbol ≠ "")
  return symbol

/-- Answers the activation of a command. -/
def executeCommand (s : Service) (command : String) (arguments : List Json) :
    Dialogue Flow.Outcome :=
  if s.isActive ∧ command = searchCommand then
    match symbolOf? arguments with
    | some symbol => Flow.run s.configuration.tool (.searching symbol)
    | none => return .aborted .missingSymbol
  else return .aborted (.unknownCommand command)

def resolve (s : Service) (ds : List Diagnostic) : Dialogue Flow.Outcome :=
  Flow.run s.configuration.tool (.matchingDiagnostic ds)

/-- What an editor asks of a service. -/
inductive Request where
  | codeActions (languageId : String) (diagnostics : List Diagnostic)
  | execute (command : String) (arguments : List Json)
  | resolve (diagnostics : List Diagnostic)
deriving Repr

inductive Reply where
  | offers (actions : List CodeAction)
  | outcome (outcome : Flow.Outcome)
deriving Repr

def answer (s : Service) : Request → Dialogue Reply
  | .codeActions languageId ds => return .offers (s.codeActions languageId ds)
  | .execute command arguments => return .outcome (← s.executeCommand command arguments)
  | .resolve ds => return .outcome (← s.resolve ds)

def answerAll (s : Service) : List Request → Dialogue (List Reply)
  | [] => return []
  | request :: requests => do
    let reply ← s.answer request
    return reply :: (← s.answerAll requests)

end Service

end Remedy
