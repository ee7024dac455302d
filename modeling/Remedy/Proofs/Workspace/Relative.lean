import Mathlib.Data.List.Basic
import Remedy.Proofs.Workspace.Inside

namespace Remedy.Workspace.Path

section Parts

variable [DecidableEq α] {slash dot : α} {path : List α} {front back : List (List α)}

theorem parts_eq_nil_iff : parts slash dot path = [] ↔ path = [] := by
  refine ⟨fun h => ?_, ?_⟩
  · obtain ⟨hlead, hsteps⟩ := List.append_eq_nil_iff.1 h
    cases path with
    | nil => rfl
    | cons c cs =>
      by_cases hc : c = slash
      · subst hc
        rw [lead_slash] at hlead
        cases hlead
      · obtain ⟨part, parts, hs⟩ := List.exists_cons_of_ne_nil (Text.segments_ne_nil slash cs)
        have hsegments := Text.segments_cons_of_ne hc hs
        by_cases hdot : c :: part = [dot]
        · rw [lead, hsegments, hdot] at hlead
          simp [hc] at hlead
        · have hstep : c :: part ∈ steps slash dot (c :: cs) :=
            mem_steps_iff.2 ⟨hsegments ▸ List.mem_cons_self, List.cons_ne_nil c part, hdot⟩
          rw [hsteps] at hstep
          cases hstep
  · rintro rfl
    rw [parts, steps_nil, List.append_nil]
    simp [lead, Text.segments]

theorem lead_eq_nil_or (slash dot : α) (path : List α) :
    lead slash dot path = [] ∨ ∃ part, lead slash dot path = [part] := by
  rw [lead]
  split
  · exact .inr ⟨_, rfl⟩
  · split
    · exact .inr ⟨_, rfl⟩
    · exact .inl rfl

theorem mem_steps_of_parts_eq (h : parts slash dot path = front ++ back) (hfront : front ≠ [])
    (hpart : part ∈ back) : part ∈ steps slash dot path := by
  rw [parts] at h
  obtain hlead | ⟨first, hlead⟩ := lead_eq_nil_or slash dot path
  · rw [hlead, List.nil_append] at h
    exact h ▸ List.mem_append_right front hpart
  · obtain ⟨start, front, rfl⟩ := List.exists_cons_of_ne_nil hfront
    rw [hlead] at h
    have hsteps : steps slash dot path = front ++ back := (List.cons.inj h).2
    exact hsteps ▸ List.mem_append_right front hpart

theorem eq_or_of_mem_parts (h : part ∈ parts slash dot path) :
    part = [slash] ∨ slash ∉ part ∧ part ≠ [] := by
  obtain h | h := List.mem_append.1 h
  · rw [lead] at h
    split at h
    · exact .inl (List.mem_singleton.1 h)
    · split at h
      · next hdot =>
        obtain rfl := List.mem_singleton.1 h
        exact .inr ⟨Text.notMem_of_mem_segments (List.mem_of_mem_head? hdot), List.cons_ne_nil _ _⟩
      · cases h
  · obtain ⟨hs, hnil, -⟩ := mem_steps_iff.1 h
    exact .inr ⟨Text.notMem_of_mem_segments hs, hnil⟩

theorem head?_intercalate_of_mem (h : parts slash dot path = front ++ back)
    (hslash : [slash] ∈ back) : ([slash].intercalate back).head? = some slash := by
  obtain ⟨before, after, rfl⟩ := List.append_of_mem hslash
  cases before with
  | nil => cases after <;> rfl
  | cons first before =>
    rw [← List.append_assoc] at h
    have hstep := mem_steps_of_parts_eq h (by simp) List.mem_cons_self
    exact absurd List.mem_cons_self (Text.notMem_of_mem_segments (mem_steps_iff.1 hstep).1)

variable (slash dot) in
/-- Parts of a path that does not start at the root of all. -/
structure IsRelative (parts : List (List α)) : Prop where
  slash_notMem : ∀ part ∈ parts, slash ∉ part
  nil_notMem : [] ∉ parts
  dot_notMem : [dot] ∉ parts.tail

theorem isRelative_of_parts_eq (h : parts slash dot path = front ++ back)
    (hslash : [slash] ∉ back) : IsRelative slash dot back := by
  have hmem {part : List α} (hpart : part ∈ back) : slash ∉ part ∧ part ≠ [] := by
    obtain rfl | hmem := eq_or_of_mem_parts (h ▸ List.mem_append_right front hpart)
    · exact absurd hpart hslash
    · exact hmem
  refine ⟨fun part hpart => (hmem hpart).1, fun hnil => (hmem hnil).2 rfl, fun hdot => ?_⟩
  cases back with
  | nil => cases hdot
  | cons first back =>
    have hsplit : parts slash dot path = (front ++ [first]) ++ back := by
      rw [h, List.append_assoc, List.singleton_append]
    have hstep := mem_steps_of_parts_eq hsplit (by simp) hdot
    exact (mem_steps_iff.1 hstep).2.2 rfl

theorem IsRelative.segments_intercalate (h : IsRelative slash dot back) (hne : back ≠ []) :
    Text.segments slash ([slash].intercalate back) = back :=
  Text.segments_intercalate hne h.slash_notMem

theorem IsRelative.head?_intercalate (h : IsRelative slash dot back) :
    ([slash].intercalate back).head? ≠ some slash := by
  intro hslash
  obtain ⟨rest, hrest⟩ := List.head?_eq_some_iff.1 hslash
  by_cases hne : back = []
  · subst hne
    cases hrest
  · have hsegments := h.segments_intercalate hne
    rw [hrest, Text.segments_cons_sep] at hsegments
    exact h.nil_notMem (hsegments ▸ List.mem_cons_self)

theorem IsRelative.parts_intercalate (h : IsRelative slash dot back) :
    parts slash dot ([slash].intercalate back) = back := by
  by_cases hne : back = []
  · subst hne
    exact parts_eq_nil_iff.2 rfl
  · rw [parts, lead, if_neg h.head?_intercalate, steps, h.segments_intercalate hne]
    obtain ⟨first, back, rfl⟩ := List.exists_cons_of_ne_nil hne
    obtain ⟨-, hnil, hdot⟩ := h
    have hsteps : back.filter (fun s => s ≠ [] ∧ s ≠ [dot]) = back :=
      List.filter_eq_self.2 fun s hs => decide_eq_true
        ⟨fun heq => hnil (heq ▸ List.mem_cons_of_mem _ hs), fun heq => hdot (heq ▸ hs)⟩
    have hfirst : first ≠ [] := fun heq => hnil (heq ▸ List.mem_cons_self)
    rw [List.filter_cons, hsteps]
    by_cases hcurrent : first = [dot] <;> simp [hcurrent, hfirst]

end Parts

end Remedy.Workspace.Path

namespace Remedy.Workspace.Component

@[simp] theorem text_ofText (part : List Char) : (ofText part).text = String.ofList part := by
  fun_cases ofText part <;> rfl

theorem ofText_injective : Function.Injective ofText := fun part part' h => by
  simpa [String.ofList_inj] using congrArg text h

end Remedy.Workspace.Component

namespace Remedy.Workspace.Path

variable {root path : String} {rest : List Component}

/-- Components joined by slashes. -/
def ofComponents (components : List Component) : String :=
  "/".intercalate (components.map Component.text)

theorem toList_ofComponents (back : List (List Char)) :
    (ofComponents (back.map Component.ofText)).toList = ['/'].intercalate back := by
  rw [ofComponents, String.toList_intercalate, List.map_map, List.map_map]
  congr 1
  exact (List.map_congr_left fun part _ => by simp).trans (List.map_id back)

theorem relative?_eq_some_iff :
    relative? root path = some rest ↔ components path = components root ++ rest := by
  rw [relative?]
  simp only [List.isPrefixOf_iff_prefix]
  constructor
  · intro h
    split at h
    · next hbegins =>
      obtain ⟨back, hback⟩ := hbegins
      cases h
      rw [← hback, List.drop_left]
    · cases h
  · intro h
    rw [h, if_pos (List.prefix_append _ _), List.drop_left]

theorem exists_parts_eq (h : components path = components root ++ rest) :
    ∃ back, rest = back.map Component.ofText ∧
      parts '/' '.' path.toList = parts '/' '.' root.toList ++ back := by
  rw [components_eq, components_eq] at h
  obtain ⟨front, back, hparts, hfront, rfl⟩ := List.map_eq_append_iff.1 h
  obtain rfl := Component.ofText_injective.list_map hfront
  exact ⟨back, rfl, hparts⟩

theorem exists_isRelative (h : components path = components root ++ rest) (hroot : .root ∉ rest) :
    ∃ back, rest = back.map Component.ofText ∧ IsRelative '/' '.' back := by
  obtain ⟨back, rfl, hback⟩ := exists_parts_eq h
  have hslash : ['/'] ∉ back := fun hmem => hroot (List.mem_map_of_mem hmem)
  exact ⟨back, rfl, isRelative_of_parts_eq hback hslash⟩

theorem components_ofComponents (h : components path = components root ++ rest)
    (hroot : .root ∉ rest) : components (ofComponents rest) = rest := by
  obtain ⟨back, rfl, hrelative⟩ := exists_isRelative h hroot
  rw [components_eq, toList_ofComponents, hrelative.parts_intercalate]

theorem current_notMem (h : components path = components root ++ rest) (hroot : root ≠ "") :
    .current ∉ rest := by
  obtain ⟨back, rfl, hback⟩ := exists_parts_eq h
  have hne : parts '/' '.' root.toList ≠ [] := by
    rw [ne_eq, parts_eq_nil_iff, String.toList_eq_nil_iff]
    exact hroot
  intro hcurrent
  have hdot : ['.'] ∈ back :=
    (List.mem_map_of_injective (a := ['.']) Component.ofText_injective).1 hcurrent
  exact (mem_steps_iff.1 (mem_steps_of_parts_eq hback hne hdot)).2.2 rfl

theorem components_eq_nil_iff : components path = [] ↔ path = "" := by
  rw [components_eq, List.map_eq_nil_iff, parts_eq_nil_iff, String.toList_eq_nil_iff]

end Remedy.Workspace.Path

namespace Remedy.ManifestPath

open Workspace

variable {root path : String} {rest : List Component}

theorem ofWorkspacePath_of_append (h : Path.components path = Path.components root ++ rest) :
    ofWorkspacePath root path = ofString (Path.ofComponents rest) := by
  rw [ofWorkspacePath, Path.relative?_eq_some_iff.2 h]
  exact ofNames_eq _

theorem ofWorkspacePath_join (hroot : root ≠ "") {names : List String} (hne : names ≠ [])
    (h : ∀ s ∈ names, (Files.Name.ofString s).IsProper) :
    ofWorkspacePath root (Path.join root ("/".intercalate names)) = ofNames names := by
  have hhead : ("/".intercalate names).toList.head? ≠ some '/' := by
    intro hslash
    obtain ⟨rest, hrest⟩ := List.head?_eq_some_iff.1 hslash
    have hcomponents := components_intercalate hne h
    rw [Path.components, hrest] at hcomponents
    cases names <;> cases hcomponents
  have hsteps : (Path.steps '/' '.' ("/".intercalate names).toList).map Component.ofText =
      names.map .normal := by
    rw [← Path.filterMap_segments, segments_intercalate_names hne h, filterMap_ofSegment? h]
  have hcomponents : Path.components (Path.join root ("/".intercalate names)) =
      Path.components root ++ names.map .normal := by
    rw [Path.components_eq, Path.toList_join, Path.parts_seenFrom hhead,
      if_neg (mt String.toList_eq_nil_iff.1 hroot), List.append_nil, List.map_append, hsteps,
      ← Path.components_eq]
  have htexts : (names.map Component.normal).map Component.text = names := by
    rw [List.map_map]
    exact List.map_id names
  rw [ofWorkspacePath, Path.relative?_eq_some_iff.2 hcomponents]
  dsimp only
  rw [htexts]

theorem ofWorkspacePath_of_outside (h : ¬Path.components root <+: Path.components path) :
    ofWorkspacePath root path = .error (.invalidProject path) := by
  have hnone : Path.relative? root path = none := by
    rw [Option.eq_none_iff_forall_ne_some]
    intro rest hrest
    exact h ⟨rest, (Path.relative?_eq_some_iff.1 hrest).symm⟩
  rw [ofWorkspacePath, hnone]

theorem ofWorkspacePath_eq_ok_iff {m : ManifestPath} :
    ofWorkspacePath root path = .ok m ↔
      ∃ rest, Path.components path = Path.components root ++ rest ∧
        m.text = Path.ofComponents rest := by
  constructor
  · intro h
    by_cases hbegins : Path.components root <+: Path.components path
    · obtain ⟨rest, hrest⟩ := hbegins
      rw [ofWorkspacePath_of_append hrest.symm] at h
      exact ⟨rest, hrest.symm, ofString_eq_ok_iff.1 h⟩
    · rw [ofWorkspacePath_of_outside hbegins] at h
      cases h
  · rintro ⟨rest, hrest, htext⟩
    rw [ofWorkspacePath_of_append hrest, ofString_eq_ok_iff]
    exact htext

theorem isAdmissible_ofComponents_iff (h : Path.components path = Path.components root ++ rest) :
    isAdmissible (Path.ofComponents rest) = true ↔
      Text.allBlank (Path.ofComponents rest) = false ∧ .root ∉ rest ∧ .parent ∉ rest := by
  obtain ⟨back, rfl, hback⟩ := Path.exists_parts_eq h
  have hroot : .root ∈ back.map Component.ofText ↔ ['/'] ∈ back :=
    List.mem_map_of_injective (a := ['/']) Component.ofText_injective
  have hparent : .parent ∈ back.map Component.ofText ↔ ['.', '.'] ∈ back :=
    List.mem_map_of_injective (a := ['.', '.']) Component.ofText_injective
  rw [isAdmissible_iff, hroot, hparent, Path.toList_ofComponents]
  refine and_congr_right fun hblank => ?_
  by_cases hslash : ['/'] ∈ back
  · have hhead := Path.head?_intercalate_of_mem hback hslash
    exact iff_of_false (fun h => h.1 hhead) (fun h => h.1 hslash)
  · have hrelative := Path.isRelative_of_parts_eq hback hslash
    have hne : back ≠ [] := by
      rintro rfl
      cases hblank
    rw [hrelative.segments_intercalate hne]
    exact and_congr_left fun _ => iff_of_true hrelative.head?_intercalate hslash

theorem exists_ofWorkspacePath_iff :
    (∃ m, ofWorkspacePath root path = .ok m) ↔
      ∃ rest, Path.components path = Path.components root ++ rest ∧
        Text.allBlank (Path.ofComponents rest) = false ∧ .root ∉ rest ∧ .parent ∉ rest := by
  constructor
  · rintro ⟨m, hm⟩
    obtain ⟨rest, hrest, htext⟩ := ofWorkspacePath_eq_ok_iff.1 hm
    exact ⟨rest, hrest, (isAdmissible_ofComponents_iff hrest).1 (htext ▸ m.admissible)⟩
  · rintro ⟨rest, hrest, hadmissible⟩
    have hm := (isAdmissible_ofComponents_iff hrest).2 hadmissible
    exact ⟨⟨_, hm⟩, ofWorkspacePath_eq_ok_iff.2 ⟨rest, hrest, rfl⟩⟩

theorem components_text (m : ManifestPath) :
    Path.components m.text = (if m.StartsHere then [.current] else []) ++ m.names.map .normal := by
  have hresolve : m.resolve "" = m.text := if_pos (.inr rfl)
  have hcomponents := m.components_resolve ""
  rw [hresolve, Path.components_eq_nil_iff.2 rfl] at hcomponents
  simpa using hcomponents

section Way

variable {m : ManifestPath} (h : Path.components path = Path.components root ++ rest)
  (htext : m.text = Path.ofComponents rest)
include h htext

theorem root_notMem_way : .root ∉ rest :=
  ((isAdmissible_ofComponents_iff h).1 (htext ▸ m.admissible)).2.1

theorem components_text_eq : Path.components m.text = rest :=
  htext ▸ Path.components_ofComponents h (root_notMem_way h htext)

theorem root_eq_of_startsHere (hstart : m.StartsHere) : root = "" := by
  have hrest := components_text_eq h htext
  rw [components_text, if_pos hstart] at hrest
  by_cases hroot : root = ""
  · exact hroot
  · exact absurd (hrest ▸ List.mem_cons_self) (Path.current_notMem h hroot)

theorem components_resolve_eq : Path.components (m.resolve root) = Path.components path := by
  have hstart : (if root = "" ∧ m.StartsHere then [Component.current] else []) =
      if m.StartsHere then [.current] else [] := by
    by_cases hstart : m.StartsHere
    · simp [root_eq_of_startsHere h htext hstart]
    · simp [hstart]
  rw [components_resolve, List.append_assoc, hstart, ← components_text,
    components_text_eq h htext, h]

theorem isRelative_segments : Path.IsRelative '/' '.' (Text.segments '/' m.text.toList) := by
  obtain ⟨back, rfl, hrelative⟩ := Path.exists_isRelative h (root_notMem_way h htext)
  have hne : back ≠ [] := by
    rintro rfl
    have hblank := (isAdmissible_iff.1 m.admissible).1
    rw [htext] at hblank
    cases hblank
  rwa [htext, Path.toList_ofComponents, hrelative.segments_intercalate hne]

end Way

/-- The way from a root to a path leads back to the path and is found again from there. There is one
if the path begins with the components of the root and what is left is not blank, relative and never
goes up. -/
theorem ofWorkspacePath_resolve (root path : String) :
    (∀ m, ofWorkspacePath root path = .ok m →
      Path.components (m.resolve root) = Path.components path ∧
      ofWorkspacePath root (m.resolve root) = .ok m ∧
      [] ∉ Text.segments '/' m.text.toList ∧ ['.', '.'] ∉ Text.segments '/' m.text.toList ∧
      ['.'] ∉ (Text.segments '/' m.text.toList).tail ∧ (m.StartsHere → root = "")) ∧
    ((∃ m, ofWorkspacePath root path = .ok m) ↔
      ∃ rest, Path.components path = Path.components root ++ rest ∧
        Text.allBlank (Path.ofComponents rest) = false ∧ .root ∉ rest ∧ .parent ∉ rest) ∧
    (¬Path.components root <+: Path.components path →
      ofWorkspacePath root path = .error (.invalidProject path)) ∧
    ∀ root' path', Path.components root' = Path.components root →
      Path.components path' = Path.components path →
      Path.components root <+: Path.components path →
      ofWorkspacePath root' path' = ofWorkspacePath root path := by
  refine ⟨fun m hm => ?_, exists_ofWorkspacePath_iff, ofWorkspacePath_of_outside, ?_⟩
  · obtain ⟨rest, hrest, htext⟩ := ofWorkspacePath_eq_ok_iff.1 hm
    have hresolve := components_resolve_eq hrest htext
    have hrelative := isRelative_segments hrest htext
    exact ⟨hresolve, ofWorkspacePath_eq_ok_iff.2 ⟨rest, hresolve.trans hrest, htext⟩,
      hrelative.nil_notMem, (isAdmissible_iff.1 m.admissible).2.2, hrelative.dot_notMem,
      root_eq_of_startsHere hrest htext⟩
  · rintro root' path' hroot hpath ⟨rest, hrest⟩
    have hrest' : Path.components path' = Path.components root' ++ rest := by
      rw [hroot, hpath, hrest]
    rw [ofWorkspacePath_of_append hrest', ofWorkspacePath_of_append hrest.symm]

/-- A root and a path in an unusual spelling. -/
theorem ofWorkspacePath_resolve_respelled : ∃ m : ManifestPath,
    m.text = "a/b.csproj" ∧ ofWorkspacePath "./w/" "./w//a/./b.csproj" = .ok m ∧
      ofWorkspacePath "./w/" (m.resolve "./w/") = .ok m ∧
      ofWorkspacePath "./w" "./w/a/b.csproj" = .ok m := by
  have hm : ofWorkspacePath "./w/" "./w//a/./b.csproj" = .ok ⟨"a/b.csproj", by decide +kernel⟩ := by
    decide +kernel
  obtain ⟨hback, -, -, hspelling⟩ := ofWorkspacePath_resolve "./w/" "./w//a/./b.csproj"
  have hsame := hspelling "./w" "./w/a/b.csproj" (by decide +kernel) (by decide +kernel)
    (by decide +kernel)
  exact ⟨_, rfl, hm, (hback _ hm).2.1, hsame.trans hm⟩

/-- The path is shown as it is spelled if it does not begin with the components of the root. -/
theorem ofWorkspacePath_shows_spelling :
    Path.components "b//c" = Path.components "b/c" ∧
      ofWorkspacePath "a" "b//c" ≠ ofWorkspacePath "a" "b/c" := by
  decide +kernel

end Remedy.ManifestPath
