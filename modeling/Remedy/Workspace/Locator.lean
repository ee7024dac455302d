import Remedy.Files.FileSystem
import Remedy.Workspace.Manifest

namespace Remedy.Workspace

def dropLeadingDots (s : String) : String := String.ofList (s.toList.dropWhile (· == '.'))

theorem head?_dropLeadingDots (s : String) : (dropLeadingDots s).toList.head? ≠ some '.' := by
  rw [dropLeadingDots, String.toList_ofList]
  intro h
  have h' := List.head?_dropWhile_not (· == '.') s.toList
  rw [h] at h'
  simp at h'

theorem dropLeadingDots_eq_iff {s t : String} :
    dropLeadingDots s = t ↔
      t.toList.head? ≠ some '.' ∧ ∃ n, s.toList = List.replicate n '.' ++ t.toList := by
  constructor
  · rintro rfl
    refine ⟨head?_dropLeadingDots s, (s.toList.takeWhile (· == '.')).length, ?_⟩
    have hdots : s.toList.takeWhile (· == '.') =
        List.replicate (s.toList.takeWhile (· == '.')).length '.' :=
      List.eq_replicate_of_mem fun c hc => beq_iff_eq.1 (List.all_eq_true.1 List.all_takeWhile c hc)
    rw [← hdots, dropLeadingDots, String.toList_ofList, List.takeWhile_append_dropWhile]
  · rintro ⟨hhead, n, hs⟩
    rw [dropLeadingDots, hs, List.dropWhile_append_of_pos (by simp)]
    cases ht : t.toList with
    | nil => simp [← String.toList_inj, ht]
    | cons c rest =>
      have hc : c ≠ '.' := fun he => hhead (by rw [ht, he]; rfl)
      rw [List.dropWhile_cons_of_neg (by simpa using hc), ← ht, String.ofList_toList]

end Remedy.Workspace

namespace Remedy.Files

namespace Name

/-- The part of a name after its last dot; a name without a dot behind its first octet has none. -/
def extension? (name : Name) : Option (List UInt8) :=
  if name = Name.parent then none
  else
    let after := (name.reverse.takeWhile (· ≠ 46)).reverse
    let before := name.length - after.length
    if before ≤ 1 then none else some after

/-- Whether a name has an extension, up to the case of ASCII letters. -/
def hasExtension (name : Name) (extension : String) : Bool :=
  match name.extension? with
  | some found =>
    (Text.Utf8.decodeLossy found).toList.map Char.toLower == extension.toList.map Char.toLower
  | none => false

end Name

/-- The manifests below a directory, in the order of its tree. -/
def Node.manifests (node : Node) (extension : String) : Except Failure (List ManifestPath) :=
  let matching := node.files.filter fun names =>
    match names.getLast? with
    | some name => name.hasExtension extension
    | none => false
  matching.mapM fun names => ManifestPath.ofNames (names.map Text.Utf8.decodeLossy)

end Remedy.Files

namespace Remedy.Workspace

open Files

/-- Where to look for manifests; without a root no workspace is open. -/
structure Locator where
  root : Option String
  /-- Has no leading dot. -/
  extension : String
deriving DecidableEq, Repr

namespace Locator

def ofExtension (root : Option String) (extension : String) : Locator :=
  ⟨root, dropLeadingDots extension⟩

def scan (l : Locator) (fs : FileSystem) (cwd : List Name) : Except Failure (List ManifestPath) :=
  match l.root with
  | none => .ok []
  | some root =>
    match fs.find cwd (Name.ofString root) with
    | .ok (.directory inode entries) => (Node.directory inode entries).manifests l.extension
    | _ => .error (.enumeration ("workspace root " ++ root ++ " is not a directory"))

end Locator

end Remedy.Workspace
