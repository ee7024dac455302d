import Remedy.Dialogue
import Remedy.Host.Workstation
import Remedy.Workspace.Locator

namespace Remedy.Host

open Registry (Candidate SearchError)
open Files Workspace

inductive Picker where
  | firstChoice
  /-- Asks at a terminal; where there is none every prompt is dismissed. -/
  | interactive
deriving DecidableEq, Repr

namespace Picker

def pick : Picker → List String → Option String
  | .firstChoice, items => items.head?
  | .interactive, _ => none

def echo : Picker → List String → String → String
  | .firstChoice, item :: _, placeholder => placeholder ++ ": " ++ item ++ "\n"
  | _, _, _ => ""

end Picker

def Notice.line : Notice → String
  | .info text => text ++ "\n"
  | .error text => "error: " ++ text ++ "\n"

structure Terminal where
  runner : TaskRunner Workstation
  /-- How searches are answered one after another; the last answer stands for all further ones. -/
  searches : List (String → Except SearchError (List Candidate))

namespace Terminal

def world (t : Terminal) : Unix.World := t.runner.state.machine.world

def setWorld (t : Terminal) (world : Unix.World) : Terminal :=
  let state := { t.runner.state with machine := { t.runner.state.machine with world } }
  { t with runner := { t.runner with state } }

def print (t : Terminal) (text : String) : Terminal :=
  t.setWorld { t.world with output := t.world.output ++ text.toUTF8 }

def printError (t : Terminal) (text : String) : Terminal :=
  t.setWorld { t.world with errors := t.world.errors ++ text.toUTF8 }

def notify (t : Terminal) (notice : Notice) : Terminal :=
  match notice with
  | .info _ => t.print (Notice.line notice)
  | .error _ => t.printError (Notice.line notice)

def search (t : Terminal) (query : String) :
    Except SearchError (List Candidate) × Terminal :=
  match t.searches with
  | [] => (.ok [], t)
  | [answer] => (answer query, t)
  | answer :: rest => (answer query, { t with searches := rest })

def output (t : Terminal) : String := Text.Octets.display (Text.Octets.ofBytes t.world.output)

def errors (t : Terminal) : String := Text.Octets.display (Text.Octets.ofBytes t.world.errors)

def host (picker : Picker) (locator : Locator) : Host Terminal where
  search query t := t.search query
  findProjects t := (locator.scan t.world.files t.runner.state.base, t)
  prompt items placeholder t :=
    (picker.pick items, t.print (picker.echo items placeholder))
  notify notice t := t.notify notice
  launch task t :=
    let (reply, runner) := t.runner.launch Workstation.system task
    (reply, { t with runner })

end Terminal

end Remedy.Host
