import Remedy.Shell.Pattern
import Remedy.Tool.Listing.Table

namespace Remedy.Tool.Listing

open Unix Files

def ending (name : String) : String :=
  let cs := name.toList.reverse
  let letters := cs.takeWhile (· ≠ '.')
  if letters.length = cs.length then "" else String.ofList ('.' :: letters.reverse)

/-- Whether an entry stands before another one or beside it. -/
def Plan.le (p : Plan) (a b : Entry) : Bool :=
  let byName := compareOfLessAndEq a.name b.name
  let o := match p.order.getD .name with
    | .name | .unsorted => byName
    | .time => (compare b.status.modified a.status.modified).then byName
    | .size => (compare b.status.size a.status.size).then byName
    | .ending => (compareOfLessAndEq (ending a.name) (ending b.name)).then byName
    | .version => (Text.Version.compareNames a.name b.name).then byName
    | .width => (compare (p.shown a.name).length (p.shown b.name).length).then byName
  let o := if p.isReversed then o.swap else o
  let isPlace (e : Entry) : Nat := if e.status.kind == .directory then 0 else 1
  let o := if p.directoriesFirst then (compare (isPlace a) (isPlace b)).then o else o
  o != .gt

def Plan.sorted (p : Plan) (es : List Entry) : List Entry :=
  if p.order == some .unsorted then es else es.mergeSort p.le

def entry (v : View) (follow : Bool) (name path : String) : Except Errno Entry := do
  let (s, isUnknown) ← match v.status path follow with
    | .ok s => .ok (s, false)
    | .error e => if follow then (v.status path false).map (·, true) else .error e
  let target := match v.node path false with
    | .ok (.link text) =>
      if s.kind == .link && !isUnknown then some (Text.Octets.ofList text) else none
    | _ => none
  return { name, path, status := s, isUnknown, target }

def Plan.hides (p : Plan) (name : String) : Bool :=
  let fits (patterns : List String) : Bool :=
    patterns.any fun pattern => Shell.Pattern.accepts (Shell.Pattern.ofString pattern false) name
  let isLeftOut := name.startsWith "." && match p.omits with
    | .hidden => true
    | .dots => name == "." || name == ".."
    | .nothing => false
  isLeftOut || fits p.ignored ||
    p.omits == .hidden && !name.startsWith "." && fits p.ignoredByDefault

def Plan.needsStatus (p : Plan) : Bool :=
  p.shape == .long || p.showsBlocks || p.showsInodes || p.hasColors || p.marking != .nothing ||
    p.isRecursive || p.directoriesFirst || p.order == some .time || p.order == some .size

def Plan.heading (p : Plan) (path : String) : String :=
  match p.quoting with
  | .shell false | .shellEscape false =>
    (if path.toList.contains ':' then quotedAlways path else p.shown path) ++ ":\n"
  | _ => p.shown path ++ ":\n"

/-- Steps that know whether a color was used already. -/
abbrev Painting := StateT Bool Tool

/-- Prints a text; in front of its first color the colors are set back. -/
def paint (text : String) : Painting Unit := do
  match (if ← get then [text] else text.splitOn "\x1b[") with
  | plain :: c :: rest =>
    set true
    put (plain ++ "\x1b[0m\x1b[" ++ "\x1b[".intercalate (c :: rest))
  | _ => put text

def listDirectory (p : Plan) (print : List Entry → List Entry → Painting Unit) :
    Nat → Bool → Bool → Bool → String → Painting Unit
  | 0, _, _, _, _ => return
  | depth + 1, hasHeading, isFirst, isOperand, path => do
    let v ← look
    match v.node path true with
    | .error e =>
      complain ("cannot open directory " ++ quotedAlways path ++ ": " ++ e.message)
      note (if isOperand then 2 else 1)
    | .ok n =>
      let names := "." :: ".." :: n.entries.map fun e => Text.Octets.ofList e.1
      let follow := p.following == some .always
      let es := (names.filter fun name => !p.hides name).filterMap fun name =>
        (entry v follow name (join path name)).toOption
      unless isFirst do put "\n"
      if hasHeading then put (p.heading path)
      if p.needsStatus then
        (es.filter (·.isUnknown)).forM fun e => do
          let error := match v.status e.path true with
            | .ok _ => Errno.missing
            | .error e => e
          complain ("cannot access " ++ quotedAlways e.path ++ ": " ++ error.message)
          note 1
      let es := p.sorted es
      if p.shape == .long || p.showsBlocks then
        let total := es.foldl (fun n e => n + if e.isUnknown then 0 else blocks e.status) 0
        put ("total " ++ p.blocksText total ++ p.finish)
      print es es
      if p.isRecursive then
        let inner := es.filter fun e =>
          e.status.kind == .directory && e.name != "." && e.name != ".."
        inner.forM fun e => listDirectory p print depth true false false e.path

def list (shape : Shape) (quoting : Quoting) (words : List String) : Tool Unit := do
  let g ← given options words false 2
  let p ← plan g shape quoting
  let environment := (← get).environment
  let colors? := if p.hasColors then Colors.ofVariables environment else none
  let p := { p with hasColors := colors?.isSome }
  let colors := colors?.getD {}
  let operands := if g.operands.isEmpty then ["."] else g.operands
  let v ← look
  let listed ← operands.filterMapM fun path => do
    -- a link to a directory is followed where its own nature is not shown
    let leads := match p.following.getD .never with
      | .always | .operands => true
      | .operandsToDirectories => v.isDirectory path
      | .never => false
    match entry v leads path path with
    | .ok e =>
      if e.isUnknown && leads then
        match v.status path true with
        | .error error =>
          complain ("cannot access " ++ quotedAlways path ++ ": " ++ error.message)
          note 2
          return none
        | .ok _ => return some e
      else return some e
    | .error e =>
      complain ("cannot access " ++ quotedAlways path ++ ": " ++ e.message)
      note 2
      return none
  let print (measured es : List Entry) : Painting Unit := paint (p.body colors v measured es)
  let (places, files) := listed.partition fun e =>
    e.status.kind == .directory && !p.showsDirectories
  let files := p.sorted files
  let hasHeadings := p.isRecursive || operands.length > 1
  let all : Painting Unit := do
    print listed files
    (p.sorted places).zipIdx.forM fun (e, i) =>
      listDirectory p print 4096 hasHeadings (files.isEmpty && i = 0) true e.path
  let _ ← all.run false

def catalogue : List (String × (List String → Tool Unit)) := [
  ("ls", list .one .literal), ("dir", list .columns .escape), ("vdir", list .long .escape)]

end Remedy.Tool.Listing
