import Remedy.Proofs.Workspace.Names

namespace Remedy.Workspace.Path

section Parts

variable [DecidableEq α] (slash dot : α)

/-- How a path starts: at the root of all, in so many words at the current directory, or plainly. -/
def lead (path : List α) : List (List α) :=
  if path.head? = some slash then [[slash]]
  else if (Text.segments slash path).head? = some [dot] then [[dot]]
  else []

/-- The segments of a path that lead somewhere. -/
def steps (path : List α) : List (List α) :=
  (Text.segments slash path).filter fun s => s ≠ [] ∧ s ≠ [dot]

/-- The components of a path as they are written. -/
def parts (path : List α) : List (List α) := lead slash dot path ++ steps slash dot path

/-- The path `path` seen from `root`. -/
def seenFrom (root path : List α) : List α :=
  if path.head? = some slash ∨ root = [] then path
  else if root.getLast? = some slash then root ++ path
  else root ++ slash :: path

variable {slash dot} {root path front : List α}

theorem lead_slash (rest : List α) : lead slash dot (slash :: rest) = [[slash]] := if_pos rfl

theorem lead_append_slash (h : front ≠ []) (back : List α) :
    lead slash dot (front ++ slash :: back) = lead slash dot front := by
  obtain ⟨c, cs, rfl⟩ := List.exists_cons_of_ne_nil h
  obtain ⟨part, parts, hs⟩ := List.exists_cons_of_ne_nil (Text.segments_ne_nil slash (c :: cs))
  rw [lead, lead, Text.segments_append_sep, hs]
  rfl

theorem lead_append_slash_congr (front back back' : List α) :
    lead slash dot (front ++ slash :: back) = lead slash dot (front ++ slash :: back') := by
  by_cases h : front = []
  · subst h
    exact (lead_slash back).trans (lead_slash back').symm
  · rw [lead_append_slash h, lead_append_slash h]

theorem steps_append_slash (front back : List α) :
    steps slash dot (front ++ slash :: back) = steps slash dot front ++ steps slash dot back := by
  rw [steps, steps, steps, Text.segments_append_sep, List.filter_append]

theorem steps_nil : steps slash dot [] = [] := by
  simp [steps, Text.segments]

/-- A path that does not start anew goes on behind the components of its root. Its own start counts
only if nothing stands before it. -/
theorem parts_seenFrom (h : path.head? ≠ some slash) :
    parts slash dot (seenFrom slash root path) =
      parts slash dot root ++ (if root = [] then lead slash dot path else []) ++
        steps slash dot path := by
  by_cases hroot : root = []
  · subst hroot
    simp [seenFrom, parts, steps_nil, lead, Text.segments]
  · rw [seenFrom, if_neg (not_or.2 ⟨h, hroot⟩), if_neg hroot, List.append_nil, parts, parts]
    split
    · next hlast =>
      obtain ⟨front, rfl⟩ := List.getLast?_eq_some_iff.1 hlast
      rw [List.append_assoc, List.singleton_append, steps_append_slash, steps_append_slash,
        lead_append_slash_congr front path [], steps_nil, List.append_nil, List.append_assoc]
    · rw [lead_append_slash hroot, steps_append_slash, List.append_assoc]

theorem mem_steps_iff {step : List α} :
    step ∈ steps slash dot path ↔
      step ∈ Text.segments slash path ∧ step ≠ [] ∧ step ≠ [dot] := by
  simp [steps]

end Parts

end Remedy.Workspace.Path

namespace Remedy.Workspace.Component

def ofText : List Char → Component
  | ['/'] => .root
  | ['.'] => .current
  | ['.', '.'] => .parent
  | name => .normal (String.ofList name)

theorem ofSegment?_eq {segment : List Char} (h : '/' ∉ segment) :
    ofSegment? segment =
      if segment ≠ [] ∧ segment ≠ ['.'] then some (ofText segment) else none := by
  fun_cases ofSegment? segment with
  | case1 => rfl
  | case2 => rfl
  | case3 => rfl
  | case4 segment h₁ h₂ h₃ =>
    rw [if_pos ⟨h₁, h₂⟩, ofText]
    · rintro rfl
      exact h List.mem_cons_self
    · exact h₂
    · exact h₃

end Remedy.Workspace.Component

namespace Remedy.Workspace.Path

theorem filterMap_segments (cs : List Char) :
    (Text.segments '/' cs).filterMap Component.ofSegment? =
      (steps '/' '.' cs).map Component.ofText := by
  have h : ∀ segment ∈ Text.segments '/' cs, '/' ∉ segment := fun _ hs =>
    Text.notMem_of_mem_segments hs
  rw [steps]
  generalize Text.segments '/' cs = segments at h
  induction segments with
  | nil => rfl
  | cons segment segments ih =>
    obtain ⟨hs, hsegments⟩ := List.forall_mem_cons.1 h
    rw [List.filterMap_cons, List.filter_cons, Component.ofSegment?_eq hs, ih hsegments]
    by_cases hstep : segment ≠ [] ∧ segment ≠ ['.'] <;> simp [hstep]

theorem components_eq (path : String) :
    components path = (parts '/' '.' path.toList).map Component.ofText := by
  rw [parts, List.map_append, ← filterMap_segments, components]
  split
  · next rest heq =>
    rw [heq, lead_slash, Text.segments_cons_sep]
    rfl
  · next hslash =>
    have hhead : path.toList.head? ≠ some '/' := by
      intro h
      obtain ⟨rest, hrest⟩ := List.head?_eq_some_iff.1 h
      exact hslash rest hrest
    rw [lead, if_neg hhead]
    split
    · next rest heq =>
      rw [heq]
      rfl
    · next hdot =>
      have hhead : (Text.segments '/' path.toList).head? ≠ some ['.'] := by
        intro h
        obtain ⟨rest, hrest⟩ := List.head?_eq_some_iff.1 h
        exact hdot rest hrest
      rw [if_neg hhead]
      rfl

theorem toList_join (root path : String) :
    (join root path).toList = seenFrom '/' root.toList path.toList := by
  rw [join, seenFrom]
  simp only [String.toList_eq_nil_iff]
  split
  · rfl
  · split
    · exact String.toList_append
    · simp

open Files

def dot : UInt8 := 46

theorem encode_eq_nil_iff {cs : List Char} : Text.Utf8.encode cs = [] ↔ cs = [] :=
  ⟨fun h => Text.Utf8.encode_injective h, fun h => h ▸ rfl⟩

theorem encode_eq_dot_iff {cs : List Char} : Text.Utf8.encode cs = [dot] ↔ cs = ['.'] :=
  ⟨fun h => Text.Utf8.encode_injective h, fun h => h ▸ rfl⟩

theorem segments_ofString (s : String) :
    Text.segments FileSystem.slash (Name.ofString s) =
      (Text.segments '/' s.toList).map Text.Utf8.encode :=
  Text.Utf8.segments_encode (a := '/') (by decide) s.toList

theorem head?_ofString_iff :
    (Name.ofString s).head? = some FileSystem.slash ↔ s.toList.head? = some '/' :=
  Text.Utf8.head?_encode_iff (a := '/') (by decide)

theorem getLast?_ofString_iff :
    (Name.ofString s).getLast? = some FileSystem.slash ↔ s.toList.getLast? = some '/' :=
  Text.Utf8.getLast?_encode_iff (a := '/') (by decide)

theorem head?_segments_ofString_iff :
    (Text.segments FileSystem.slash (Name.ofString s)).head? = some [dot] ↔
      (Text.segments '/' s.toList).head? = some ['.'] := by
  rw [segments_ofString, List.head?_map]
  simp [encode_eq_dot_iff]

theorem lead_ofString (s : String) :
    lead FileSystem.slash dot (Name.ofString s) = (lead '/' '.' s.toList).map Text.Utf8.encode := by
  rw [lead, lead]
  simp only [head?_ofString_iff, head?_segments_ofString_iff]
  split
  · rfl
  · split <;> rfl

theorem steps_ofString (s : String) :
    steps FileSystem.slash dot (Name.ofString s) =
      (steps '/' '.' s.toList).map Text.Utf8.encode := by
  rw [steps, steps, segments_ofString, List.filter_map]
  congr 1
  refine List.filter_congr fun segment _ => ?_
  simp [encode_eq_nil_iff, encode_eq_dot_iff]

theorem ofString_join (root path : String) :
    Name.ofString (join root path) =
      seenFrom FileSystem.slash (Name.ofString root) (Name.ofString path) := by
  have hroot : Name.ofString root = [] ↔ root.toList = [] := encode_eq_nil_iff
  rw [seenFrom, Name.ofString, toList_join, seenFrom]
  simp only [head?_ofString_iff, getLast?_ofString_iff, hroot]
  split
  · rfl
  · split
    · rw [Text.Utf8.encode_append]
      rfl
    · rw [Text.Utf8.encode_append]
      rfl

end Remedy.Workspace.Path
