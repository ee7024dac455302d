import Remedy.Environment
import Remedy.Workspace.Path

namespace Remedy.CommandLine

inductive Setting where
  | verbose
  | json
  | workspace
  | registryUrl
  | maxResults
  | tool
  | manifestExtension
  | pickFirst
  | diagnostics
  | language
  | help
  | version
deriving DecidableEq, Repr

structure OptionSpec where
  setting : Setting
  long : String
  short : Option Char := none
  takesValue : Bool := true
deriving DecidableEq, Repr

def globalOptions : List OptionSpec := [
  ⟨.verbose, "verbose", some 'v', false⟩,
  ⟨.json, "json", none, false⟩,
  ⟨.workspace, "workspace", some 'w', true⟩,
  ⟨.registryUrl, "registry-url", none, true⟩,
  ⟨.maxResults, "max-results", none, true⟩,
  ⟨.tool, "tool", none, true⟩,
  ⟨.manifestExtension, "manifest-ext", none, true⟩,
  ⟨.pickFirst, "pick-first", none, false⟩,
  ⟨.help, "help", some 'h', false⟩]

def versionOption : OptionSpec := ⟨.version, "version", some 'V', false⟩

def diagnosticsOption : OptionSpec := ⟨.diagnostics, "diagnostics", some 'd', true⟩

def languageOption : OptionSpec := ⟨.language, "language", some 'l', true⟩

inductive Subcommand where
  | actions
  | fix
  | search
  | projects
deriving DecidableEq, Repr

namespace Subcommand

def all : List Subcommand := [.actions, .fix, .search, .projects]

def name : Subcommand → String
  | .actions => "actions"
  | .fix => "fix"
  | .search => "search"
  | .projects => "projects"

def ofName? (name : String) : Option Subcommand := all.find? (·.name == name)

def options : Subcommand → List OptionSpec
  | .actions => [diagnosticsOption, languageOption]
  | .fix => [diagnosticsOption]
  | .search | .projects => []

def operands : Subcommand → Nat
  | .search => 1
  | _ => 0

end Subcommand

inductive Topic where
  | program
  | subcommand (c : Subcommand)
  | help
deriving DecidableEq, Repr

def Topic.ofSubcommand? : Option Subcommand → Topic
  | some c => .subcommand c
  | none => .program

inductive Stop where
  | malformed
  | help (topic : Topic)
  | version
deriving DecidableEq, Repr

/-- The settings given at one level, the last first. -/
abbrev Given := List (Setting × String)

def isValue (setting : Setting) (value : String) : Bool :=
  match setting with
  | .workspace | .diagnostics => value ≠ ""
  | .maxResults => (Environment.word64? value).isSome
  | _ => true

def add (given : Given) (of : Option Subcommand) (setting : Setting) (value : String) :
    Except Stop Given :=
  match setting with
  | .help => .error (.help (.ofSubcommand? of))
  | .version => .error .version
  | _ =>
    if (given.lookup setting).isSome || !isValue setting value then .error .malformed
    else .ok ((setting, value) :: given)

/-- Whether an argument is an option and not a value; a lone dash is a value. -/
def isOption (arg : String) : Bool :=
  match arg.toList with
  | '-' :: _ :: _ => true
  | _ => false

/-- Reads options in short form, one behind the other; the result names a setting whose value is
the next argument. -/
def shorts (specs : List OptionSpec) (of : Option Subcommand) (given : Given) :
    List Char → Except Stop (Given × Option Setting)
  | [] => .ok (given, none)
  | c :: rest =>
    match specs.find? (·.short == some c) with
    | none => .error .malformed
    | some spec =>
      if spec.takesValue then
        match rest with
        | [] => .ok (given, some spec.setting)
        | '=' :: value | value =>
          (add given of spec.setting (String.ofList value)).map (·, none)
      else do shorts specs of (← add given of spec.setting "") rest

def long (specs : List OptionSpec) (of : Option Subcommand) (given : Given) (cs : List Char) :
    Except Stop (Given × Option Setting) :=
  let name := cs.takeWhile (· ≠ '=')
  match specs.find? (·.long.toList == name), cs.drop name.length with
  | none, _ => .error .malformed
  | some spec, [] =>
    if spec.takesValue then .ok (given, some spec.setting)
    else (add given of spec.setting "").map (·, none)
  | some spec, _ :: value =>
    if spec.takesValue then (add given of spec.setting (String.ofList value)).map (·, none)
    else .error .malformed

/-- What the arguments of a level say, up to the first operand if `stopAtOperand` is set. -/
structure Level where
  given : Given
  operands : List String
  rest : List String
deriving Repr

/-- A level of options and operands. After `--` all are operands. -/
def level (specs : List OptionSpec) (of : Option Subcommand) (stopAtOperand : Bool) (most : Nat) :
    Given → List String → List String → Except Stop Level
  | given, operands, [] => .ok ⟨given, operands, []⟩
  | given, operands, "--" :: rest =>
    if operands.length + rest.length ≤ most then .ok ⟨given, operands ++ rest, []⟩
    else .error .malformed
  | given, operands, arg :: rest =>
    if isOption arg then
      match
        match arg.toList with
        | '-' :: '-' :: cs => long specs of given cs
        | cs => shorts specs of given cs.tail with
      | .error stop => .error stop
      | .ok (given, none) => level specs of stopAtOperand most given operands rest
      | .ok (given, some setting) =>
        match rest with
        | value :: rest =>
          if isOption value then .error .malformed
          else
            match add given of setting value with
            | .error stop => .error stop
            | .ok given => level specs of stopAtOperand most given operands rest
        | [] => .error .malformed
    else if stopAtOperand then .ok ⟨given, operands, arg :: rest⟩
    else if operands.length < most then
      level specs of stopAtOperand most given (operands ++ [arg]) rest
    else .error .malformed

structure Arguments where
  workspace : String
  registryUrl : Option String
  maxResults : Option Nat
  tool : Option String
  manifestExtension : Option String
  pickFirst : Bool
  command : Subcommand
  diagnostics : String
  language : String
  symbol : String
deriving DecidableEq, Repr

def helpTopic : List String → Except Stop Arguments
  | [] => .error (.help .program)
  | [name] =>
    if name = "help" then .error (.help .help)
    else .error ((Subcommand.ofName? name).elim .malformed fun c => .help (.subcommand c))
  | _ => .error .malformed

/-- Whether the environment holds a greatest number of results that is none and is looked at: each
level that is not given one looks there. -/
def refusesEnvironment (env : Environment) (root sub : Given) : Bool :=
  env.maxResults.any (fun n => (Environment.word64? n).isNone) &&
    !((root.lookup .maxResults).isSome && (sub.lookup .maxResults).isSome)

def defaultWorkspace : String := "."

def defaultLanguage : String := "csharp"

/-- Reads the arguments. A setting given after the subcommand counts before one given in front of
it, and both before the environment. -/
def parse (env : Environment) (args : List String) : Except Stop Arguments := do
  let root ← level (globalOptions ++ [versionOption]) none true 0 [] [] args
  match root.rest with
  | [] => .error .malformed
  | "help" :: topics => helpTopic topics
  | name :: rest =>
    match Subcommand.ofName? name with
    | none => .error .malformed
    | some command =>
      let sub ← level (globalOptions ++ command.options) (some command) false command.operands [] []
        rest
      let given := sub.given ++ root.given
      let symbol? := if command = .search then sub.operands.head? else some ""
      let diagnostics? :=
        if command.options.contains diagnosticsOption then given.lookup .diagnostics else some ""
      match symbol?, diagnostics? with
      | some symbol, some diagnostics =>
        if refusesEnvironment env root.given sub.given then .error .malformed
        else
          .ok {
            workspace := (given.lookup .workspace).getD defaultWorkspace
            registryUrl := (given.lookup .registryUrl).or env.searchUrl
            maxResults := ((given.lookup .maxResults).or env.maxResults).bind Environment.word64?
            tool := (given.lookup .tool).or env.tool
            manifestExtension := (given.lookup .manifestExtension).or env.manifestExtension
            pickFirst := (given.lookup .pickFirst).isSome
            command, diagnostics, symbol
            language := (given.lookup .language).getD defaultLanguage }
      | _, _ => .error .malformed

end Remedy.CommandLine
