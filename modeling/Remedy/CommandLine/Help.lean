import Remedy.CommandLine.Arguments
import Remedy.Text.Plain

namespace Remedy.CommandLine

def programName : String := "nuget-fix"

namespace Setting

def describe : Setting → String
  | .verbose => "Enable verbose output"
  | .json => "Emit JSON-formatted log lines"
  | .workspace => "Workspace root to search for project files"
  | .registryUrl => "NuGet search service base URL"
  | .maxResults => "Maximum number of packages offered (1 to 5)"
  | .tool => "Package-manager executable"
  | .manifestExtension => "Project manifest extension"
  | .pickFirst => "Take the first package and project instead of prompting"
  | .diagnostics => ""
  | .language => "Language id of the document the diagnostics belong to"
  | .help => "Print help"
  | .version => "Print version"

def default? : Setting → Option String
  | .workspace => some defaultWorkspace
  | .language => some defaultLanguage
  | _ => none

def environment? (env : Environment) : Setting → Option (String × Option String)
  | .registryUrl => some (Environment.searchUrlName, env.searchUrl)
  | .maxResults => some (Environment.maxResultsName, env.maxResults)
  | .tool => some (Environment.toolName, env.tool)
  | .manifestExtension => some (Environment.manifestExtensionName, env.manifestExtension)
  | _ => none

end Setting

namespace OptionSpec

def valueName (o : OptionSpec) : String :=
  String.ofList (o.long.toList.map fun c => if c = '-' then '_' else c.toUpper)

def synopsis (o : OptionSpec) : String :=
  "--" ++ o.long ++ if o.takesValue then " <" ++ o.valueName ++ ">" else ""

def description (env : Environment) (o : OptionSpec) : String :=
  let notes :=
    ((o.setting.environment? env).map fun (name, value) =>
      "[env: " ++ name ++ "=" ++ value.getD "" ++ "]").toList ++
    (o.setting.default?.map fun value => "[default: " ++ value ++ "]").toList
  " ".intercalate (o.setting.describe :: notes)

def help (env : Environment) (width : Nat) (o : OptionSpec) : String :=
  let short := o.short.elim "      " fun c => "  -" ++ c.toString ++ ", "
  let indent := "\n" ++ "".pushn ' ' (width + 8)
  short ++ o.synopsis ++ "".pushn ' ' (width - o.synopsis.length) ++ "  " ++
    indent.intercalate ((o.description env).splitOn "\n") ++ "\n"

def sortKey (o : OptionSpec) : String :=
  match o.short with
  | some c => String.singleton c.toLower ++ (if c.isUpper then "1" else "0")
  | none => o.long

end OptionSpec

namespace Subcommand

def describe : Subcommand → String
  | .actions => "Print quick-fix actions for diagnostics (JSON array, `-` for stdin)"
  | .fix => "Match diagnostics and install a package for the first unresolved type"
  | .search => "Search for and install a package providing SYMBOL"
  | .projects => "List project files in the workspace"

def synopsis (c : Subcommand) : String :=
  let demanded := if c.options.contains diagnosticsOption then " " ++ diagnosticsOption.synopsis
    else ""
  c.name ++ " [OPTIONS]" ++ demanded ++ if c.operands = 0 then "" else " <SYMBOL>"

end Subcommand

namespace Help

def about : String := "Find and install NuGet packages for unresolved C# types"

def usage : Topic → String
  | .program => "Usage: " ++ programName ++ " [OPTIONS] <COMMAND>\n"
  | .subcommand c => "Usage: " ++ programName ++ " " ++ c.synopsis ++ "\n"
  | .help => "Usage: " ++ programName ++ " help [COMMAND]...\n"

def row (width : Nat) (name description : String) : String :=
  "  " ++ name ++ "".pushn ' ' (width - name.length) ++ "  " ++ description ++ "\n"

def aboutHelp : String := "Print this message or the help of the given subcommand(s)"

def commands : String :=
  "Commands:\n" ++ String.join (Subcommand.all.map fun c => row 8 c.name c.describe) ++
    row 8 "help" aboutHelp

/-- Options by their places: what stands first in a list comes first, and of two lists the options of
one place are in the order of their names. What tells of the program comes last. -/
def arranged (own : List OptionSpec) : List OptionSpec :=
  let isLast (o : OptionSpec) : Bool := o.setting == .help || o.setting == .version
  let placed := (own.zipIdx ++ globalOptions.zipIdx).filter fun x => !isLast x.1
  let sorted := placed.mergeSort fun x y =>
    x.2 < y.2 || (x.2 == y.2 && decide (x.1.sortKey ≤ y.1.sortKey))
  sorted.map (·.1) ++ (globalOptions ++ own).filter isLast

def options (env : Environment) (specs : List OptionSpec) : String :=
  let width := (specs.map (·.synopsis.length)).foldl max 0
  "Options:\n" ++ String.join (specs.map (·.help env width))

def text (env : Environment) (topic : Topic) : String :=
  Text.Plain.ofText ("\n".intercalate (match topic with
    | .program =>
      [about ++ "\n", usage topic, commands, options env (arranged [versionOption])]
    | .subcommand c =>
      let operands := if c.operands = 0 then [] else ["Arguments:\n" ++ row 8 "<SYMBOL>" ""]
      [c.describe ++ "\n", usage topic] ++ operands ++ [options env (arranged c.options)]
    | .help =>
      [aboutHelp ++ "\n", usage topic,
        "Arguments:\n" ++ row 12 "[COMMAND]..." "Print help for the subcommand(s)"]))

def refusal : String :=
  "error: the arguments cannot be understood\n\n" ++ usage .program ++
    "\nFor more information, try '--help'.\n"

end Help

end Remedy.CommandLine
