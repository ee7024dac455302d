import Remedy.Tool.Basic

namespace Remedy.Tool

open Unix Files

inductive Backup where
  | simple
  | numbered
  | existing
deriving DecidableEq, Repr

structure Backups where
  kind : Option Backup := none
  suffix : String := "~"

namespace Backup

def choices : List (List String) :=
  [["none", "off"], ["simple", "never"], ["existing", "nil"], ["numbered", "t"]]

def ofChoice? (word : String) : Option Backup :=
  match word with
  | "simple" => some .simple
  | "existing" => some .existing
  | "numbered" => some .numbered
  | _ => none

def options : List Opt :=
  [opt 'b' "", long "backup" .maybe, opt 'S' "suffix" .argument]

def number? (name entry : String) : Option Nat :=
  let head := name ++ ".~"
  if entry.startsWith head && entry.endsWith "~" && entry.length > head.length + 1 then
    let digits := (entry.toList.drop head.length).dropLast
    if digits.head? == some '0' then none else natural? (String.ofList digits)
  else none

end Backup

namespace Backups

def ofOptions (g : Given) : Tool Backups := do
  let environment := (← get).environment
  let isSuffix (s : String) : Bool := s != "" && !s.toList.contains '/'
  let suffix := ((g.argument? "S").orElse fun _ => environment.lookup "SIMPLE_BACKUP_SUFFIX").filter
    isSuffix |>.getD "~"
  if !(g.has "b" || g.has "backup" || g.has "S") then return { suffix }
  else
    match (g.argumentsOf "backup").reverse.find? (· != "") with
    | some word => return { kind := Backup.ofChoice? (← choose "backup type" Backup.choices word), suffix }
    | none =>
      match environment.lookup "VERSION_CONTROL" with
      | none | some "" => return { kind := some .existing, suffix }
      | some word =>
        return { kind := Backup.ofChoice? (← choose "$VERSION_CONTROL" Backup.choices word), suffix }

def nameFor (b : Backups) (v : View) (path : String) : String :=
  let bare := withoutSlashes path
  let name := baseName bare
  let directory := String.ofList (bare.toList.take (bare.length - name.length))
  let names := (v.names (if directory == "" then "." else directory)).toOption.getD []
  let greatest := (names.filterMap (Backup.number? name)).foldl max 0
  match b.kind with
  | some .numbered => bare ++ ".~" ++ toString (greatest + 1) ++ "~"
  | some .existing =>
    if greatest > 0 then bare ++ ".~" ++ toString (greatest + 1) ++ "~" else bare ++ b.suffix
  | _ => bare ++ b.suffix

end Backups

end Remedy.Tool
