import Remedy.Calendar.Layout
import Remedy.Files.Permission
import Remedy.Tool.Accounts
import Remedy.Tool.Listing.Colors
import Remedy.Tool.Listing.Plan

namespace Remedy.Tool.Listing

open Unix Files

structure Entry where
  name : String
  path : String
  status : Status
  /-- Nothing but the kind of the file could be found out. -/
  isUnknown : Bool := false
  target : Option String := none

def blocks (s : Status) : Nat :=
  match s.kind with
  | .regular | .directory => (s.size + 4095) / 4096 * 4
  | _ => 0

def escaped (blanks quotes : Bool) (s : String) : String :=
  String.join (s.toList.map fun c =>
    match c with
    | '\n' => "\\n"
    | '\t' => "\\t"
    | '\r' => "\\r"
    | '\x07' => "\\a"
    | '\x08' => "\\b"
    | '\x0c' => "\\f"
    | '\x0b' => "\\v"
    | '\\' => "\\\\"
    | ' ' => if blanks then "\\ " else " "
    | '"' => if quotes then "\\\"" else "\""
    | c => if c < ' ' || c ≥ '\x7f' then "\\" ++ Permission.octal c.toNat 3
        else String.singleton c)

def shellQuoted (always : Bool) (name : String) : String :=
  let cs := name.toList
  let needs := name == "" || cs.any isShellSpecial || name.startsWith "~" || name.startsWith "#"
  if !(always || needs) then name
  else if !cs.contains '\'' then "'" ++ name ++ "'"
  else if cs.any fun c => "\"$`\\!".toList.contains c then
    "'" ++ String.join (cs.map fun c => if c == '\'' then "'\\''" else String.singleton c) ++ "'"
  else "\"" ++ name ++ "\""

def Plan.shown (p : Plan) (name : String) : String :=
  let text := match p.quoting with
    | .literal => name
    | .shell always => shellQuoted always name
    | .shellEscape always => if always then quotedAlways name else quotedWord name
    | .text => "\"" ++ escaped false true name ++ "\""
    | .textIfNeeded =>
      let inner := escaped false true name
      if inner == name then name else "\"" ++ inner ++ "\""
    | .escape => escaped true false name
    | .marked => marked name
  if p.hidesControls then
    String.ofList (text.toList.map fun c => if c < ' ' || c ≥ '\x7f' then '?' else c)
  else text

/-- Whether names without quotes stand under names in quotes as if they had some. -/
def Plan.aligns (p : Plan) : Bool :=
  (p.shape == .long || (p.shape == .columns || p.shape == .across) && p.width.getD 80 > 0) &&
    match p.quoting with
    | .shell false | .shellEscape false | .textIfNeeded => true
    | _ => false

def Plan.mark (p : Plan) (s : Status) : String :=
  match p.marking, s.kind with
  | .nothing, _ => ""
  | _, .directory => "/"
  | .directories, _ => ""
  | _, .link => "@"
  | _, .fifo => "|"
  | .all, .regular => if s.isExecutable then "*" else ""
  | _, _ => ""

def Plan.time (p : Plan) (now : Int) (s : Status) : String :=
  let m := Calendar.Moment.ofNanoseconds s.modified
  let recent := s.modified ≤ now && now - s.modified < 15778476 * Calendar.second
  match p.timeStyle with
  | some "full-iso" => Calendar.layout m "%Y-%m-%d %H:%M:%S.%N %z"
  | some "long-iso" => Calendar.layout m "%Y-%m-%d %H:%M"
  | some "iso" =>
    Calendar.layout m (if recent then "%m-%d %H:%M" else "%Y-%m-%d ")
  | some style =>
    if style.startsWith "+" then
      -- a second line is for what was changed lately
      let (old, lately) := (style.toList.drop 1).span (· ≠ '\n')
      Calendar.layout m (String.ofList
        (if lately.isEmpty || !recent then old else lately.drop 1))
    else Calendar.layout m "%b %e %H:%M"
  | none =>
    Calendar.layout m (if recent then "%b %e %H:%M" else "%b %e  %Y")

structure Cell where
  text : String
  width : Nat

/-- How wide a text stands: what cannot be seen takes no place. -/
def visibleWidth (s : String) : Nat := s.toList.countP fun c => ' ' ≤ c && c ≠ '\x7f'

def Cell.ofString (s : String) : Cell := ⟨s, visibleWidth s⟩

def Cell.append (a b : Cell) : Cell := ⟨a.text ++ b.text, a.width + b.width⟩

instance : Append Cell := ⟨Cell.append⟩

def Plan.colored (p : Plan) (colors : Colors) (name : String) (s : Status) : Cell :=
  let text := p.shown name
  let code? := if p.hasColors then colors.code? name s else none
  ⟨code?.elim text fun code => colors.wrap code text, visibleWidth text⟩

/-- A name as the rows show it, with its mark and, in the long shape, what it leads to. -/
def Plan.label (p : Plan) (colors : Colors) (v : View) (hasQuoted : Bool) (e : Entry) : Cell :=
  let pad := if hasQuoted && p.shown e.name == e.name then " " else ""
  let name := Cell.ofString pad ++ p.colored colors e.name e.status
  match e.target with
  | some target =>
    if p.shape == .long then
      let behind := v.status e.path true
      let shown := match behind with
        | .ok s => p.colored colors target s
        | .error _ => .ofString (p.shown target)
      name ++ .ofString " -> " ++ shown ++ .ofString (behind.toOption.elim "" p.mark)
    else name ++ .ofString (p.mark e.status)
  | none => name ++ .ofString (p.mark e.status)

def Plan.hasQuoted (p : Plan) (es : List Entry) : Bool :=
  p.aligns && es.any fun e => p.shown e.name != e.name

def Plan.blocksText (p : Plan) (kilobytes : Nat) : String :=
  (p.blockAmount.getD {}).write (1024 * kilobytes)

def Plan.front (p : Plan) (es : List Entry) : Entry → String :=
  let widest (f : Entry → String) : Nat := es.foldl (fun w e => max w (f e).length) 0
  let inode (e : Entry) : String := if e.isUnknown then "?" else toString e.status.inode
  let size (e : Entry) : String := if e.isUnknown then "?" else p.blocksText (blocks e.status)
  let isNarrow := p.shape == .commas
  let inodeWidth := if isNarrow then 0 else widest inode
  let sizeWidth := if isNarrow then 0 else widest size
  fun e =>
    (if p.showsInodes then padLeft (inode e) inodeWidth ++ " " else "") ++
    (if p.showsBlocks then padLeft (size e) sizeWidth ++ " " else "") ++
    (if p.showsContext && p.shape != .long then "? " else "")

/-- Rows of the long shape; the columns are as wide as all of the measured entries need. -/
def Plan.longRows (p : Plan) (colors : Colors) (v : View) (measured es : List Entry) :
    List String :=
  let owner (name? : Option String) (n : Nat) : Nat → String :=
    match if p.isNumeric then none else name? with
    | some name => padRight name
    | none => padLeft (toString n)
  let orUnknown (e : Entry) (f : Nat → String) : Nat → String :=
    if e.isUnknown then padRight "?" else f
  let user (e : Entry) : Nat → String :=
    orUnknown e (owner (Accounts.userName? v e.status.user) e.status.user)
  let group (e : Entry) : Nat → String :=
    orUnknown e (owner (Accounts.groupName? v e.status.group) e.status.group)
  let size (e : Entry) : String :=
    if e.isUnknown then "?"
    else
      match e.status.kind with
      | .character => "1, 3"
      | _ => p.sizeAmount.write e.status.size
  let links (e : Entry) : String := if e.isUnknown then "?" else toString e.status.links
  let letters (e : Entry) : String :=
    if e.isUnknown then (e.status.letters.take 1).toString ++ "?????????" else e.status.letters
  let time (e : Entry) : String :=
    let text := p.time v.files.now e.status
    if e.isUnknown then padLeft "?" text.length else text
  let widest (f : Entry → String) : Nat := measured.foldl (fun w e => max w (f e).length) 0
  let linkWidth := widest links
  let userWidth := widest fun e => user e 0
  let groupWidth := widest fun e => group e 0
  let sizeWidth := widest size
  let front := p.front es
  let hasQuoted := p.hasQuoted es
  es.map fun e =>
    front e ++ letters e ++ " " ++ padLeft (links e) linkWidth ++ " " ++
      (if p.hidesOwner then "" else user e userWidth ++ " ") ++
      (if p.hidesGroup then "" else group e groupWidth ++ " ") ++
      (if p.showsAuthor then user e userWidth ++ " " else "") ++
      (if p.showsContext then "? " else "") ++
      padLeft (size e) sizeWidth ++ " " ++ time e ++ " " ++ (p.label colors v hasQuoted e).text

def indentation (tab : Nat) : Nat → Nat → Nat → String
  | 0, _, _ => ""
  | fuel + 1, column, goal =>
    if column < goal then
      if tab ≠ 0 && goal / tab > (column + 1) / tab then
        "\t" ++ indentation tab fuel (column + tab - column % tab) goal
      else " " ++ indentation tab fuel (column + 1) goal
    else ""

def columnWidths (lengths : List Nat) (columns rows : Nat) (isAcross : Bool) : List Nat :=
  (List.range columns).map fun c =>
    let own := lengths.zipIdx.filterMap fun (n, i) =>
      if (if isAcross then i % columns else i / rows) = c then
        some (n + if c + 1 = columns then 0 else 2)
      else none
    own.foldl max 3

def inColumns (cells : List Cell) (width tab : Nat) (isAcross : Bool) : String :=
  let lengths := cells.map Cell.width
  let count := cells.length
  let rowsFor (columns : Nat) : Nat := (count + columns - 1) / columns
  let most := if width = 0 then count else min count (max 1 (width / 3))
  let fits (columns : Nat) : Bool :=
    width = 0 || ((columnWidths lengths columns (rowsFor columns) isAcross).foldl (· + ·) 0 < width)
  let columns := (((List.range most).map (· + 1)).reverse.find? fits).getD 1
  let rows := rowsFor columns
  let widths := columnWidths lengths columns rows isAcross
  let starts := (List.range columns).map fun c => (widths.take c).foldl (· + ·) 0
  let cells := cells.toArray
  String.join ((List.range rows).map fun r =>
    let row := (List.range columns).filterMap fun c =>
      cells[if isAcross then r * columns + c else c * rows + r]? |>.map fun s =>
        (starts.getD c 0, s)
    let (line, _) := row.foldl (fun (line, column) (start, s) =>
      (line ++ (if width = 0 then "".pushn ' ' (start - column)
        else indentation tab (start + 1) column start) ++ s.text, start + s.width)) ("", 0)
    line ++ "\n")

def withCommas (cells : List Cell) (width : Nat) : String :=
  let (text, _) := cells.zipIdx.foldl (fun (text, column) (s, i) =>
    if i = 0 then (s.text, s.width)
    else if width ≠ 0 && column + 2 + s.width ≥ width then (text ++ ",\n" ++ s.text, s.width)
    else (text ++ ", " ++ s.text, column + 2 + s.width)) ("", 0)
  if cells.isEmpty then "" else text ++ "\n"

def Plan.body (p : Plan) (colors : Colors) (v : View) (measured es : List Entry) : String :=
  let cells (_ : Unit) : List Cell :=
    let front := p.front es
    let hasQuoted := p.hasQuoted es
    es.map fun e => Cell.ofString (front e) ++ p.label colors v hasQuoted e
  let width := p.width.getD 80
  -- some terminals fill a tab with the color before it
  let tab := if p.hasColors then 0 else p.tab
  match p.shape with
  | .long => String.join ((p.longRows colors v measured es).map (· ++ p.finish))
  | .one => String.join ((cells ()).map (·.text ++ p.finish))
  | .columns => inColumns (cells ()) width tab false
  | .across => inColumns (cells ()) width tab true
  | .commas => withCommas (cells ()) width

end Remedy.Tool.Listing
