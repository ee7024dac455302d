import Mathlib
import Remedy.Proofs.Workspace.Scan

namespace Remedy

open Files Workspace

namespace Files.Node

variable {n : Node} {extension : String} {names : List String} {m : ManifestPath}
  {ms : List ManifestPath}

/-- The names lead to a manifest, and they come before those that lead to any other. -/
structure IsFirstManifest (n : Node) (extension : String) (names : List String) : Prop where
  manifest : n.HasManifest extension names
  lt : ∀ names', n.HasManifest extension names' → names' ≠ names →
    names.map Name.ofString < names'.map Name.ofString

theorem IsFirstManifest.unique (h : n.IsFirstManifest extension names)
    (h' : n.IsFirstManifest extension names') : names' = names := by
  by_contra hne
  have hlt := h.lt names' h'.manifest hne
  exact List.lt_irrefl _ (List.lt_trans hlt (h'.lt names h.manifest (Ne.symm hne)))

theorem Lists.exists_mem (h : n.Lists extension ms) (hnames : n.HasManifest extension names) :
    ∃ m ∈ ms, m.text = "/".intercalate names := by
  have hmem : "/".intercalate names ∈ ms.map (·.text) := by
    rw [← List.count_pos_iff, h.once names hnames]
    exact Nat.one_pos
  obtain ⟨m, hm, heq⟩ := List.mem_map.1 hmem
  exact ⟨m, hm, heq⟩

theorem Lists.eq_nil_iff (h : n.Lists extension ms) :
    ms = [] ↔ ∀ names, ¬n.HasManifest extension names := by
  constructor
  · rintro rfl names hnames
    obtain ⟨m, hm, -⟩ := h.exists_mem hnames
    cases hm
  · intro hnone
    refine List.eq_nil_iff_forall_not_mem.2 fun m hm => ?_
    obtain ⟨names, hnames, -⟩ := (h.complete m).1 hm
    exact hnone names hnames

theorem Lists.exists_isFirstManifest (h : n.Lists extension (m :: ms)) (hn : n.WellNamed) :
    ∃ names, n.IsFirstManifest extension names ∧ m.text = "/".intercalate names := by
  obtain ⟨names, hnames, heq⟩ := (h.complete m).1 List.mem_cons_self
  refine ⟨names, ⟨hnames, fun names' hnames' hne => ?_⟩, heq⟩
  obtain ⟨m', hm', heq'⟩ := h.exists_mem hnames'
  obtain rfl | hm' := List.mem_cons.1 hm'
  · exact absurd (h.distinct names' names hnames' hnames (heq' ▸ heq)) hne
  · have hlt := (List.pairwise_cons.1 h.increasing).1 m' hm'
    rwa [ManifestPath.location, ManifestPath.location, heq, heq', hnames.segments_intercalate hn,
      hnames'.segments_intercalate hn] at hlt

theorem Lists.head?_eq_some_iff (h : n.Lists extension ms) (hn : n.WellNamed) :
    ms.head? = some m ↔
      ∃ names, n.IsFirstManifest extension names ∧ m.text = "/".intercalate names := by
  constructor
  · intro hm
    obtain ⟨rest, rfl⟩ := List.head?_eq_some_iff.1 hm
    exact h.exists_isFirstManifest hn
  · rintro ⟨names, hnames, heq⟩
    cases ms with
    | nil => exact absurd hnames.manifest (h.eq_nil_iff.1 rfl names)
    | cons m' ms =>
      obtain ⟨names', hnames', heq'⟩ := h.exists_isFirstManifest hn
      obtain rfl := hnames.unique hnames'
      rw [ManifestPath.eq_of_text_eq (heq.trans heq'.symm)]
      rfl

end Files.Node

namespace Workspace.Locator

variable {l : Locator} {fs : FileSystem} {cwd : List Name} {root : String} {m : ManifestPath}

section Text

variable (hnamed : fs.root.WellNamed) (htext : fs.root.InText)

include hnamed htext

end Text

end Workspace.Locator

end Remedy
