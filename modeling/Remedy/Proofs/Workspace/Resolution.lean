import Remedy.Proofs.Workspace.Relative
import Remedy.Proofs.Workspace.Scan

namespace Remedy

open Files Workspace

namespace ManifestPath

theorem exists_resolve_eq (m : ManifestPath) {root : String} (hroot : root ≠ "") :
    ∃ front tail, Name.ofString root = front ++ tail ∧ (tail = [] ∨ tail = [FileSystem.slash]) ∧
      Name.ofString (m.resolve root) = front ++ FileSystem.slash :: Name.ofString m.text := by
  have hhead := mt Path.head?_ofString_iff.1 m.head?_ne_slash
  have hne : Name.ofString root ≠ [] := fun h => hroot (Name.ofString_injective h)
  rw [resolve, Path.ofString_join, Path.seenFrom, if_neg (not_or.2 ⟨hhead, hne⟩)]
  split
  · next hlast =>
    obtain ⟨front, hfront⟩ := List.getLast?_eq_some_iff.1 hlast
    refine ⟨front, [FileSystem.slash], hfront, .inr rfl, ?_⟩
    rw [hfront, List.append_assoc]
    rfl
  · exact ⟨Name.ofString root, [], (List.append_nil _).symm, .inl rfl, rfl⟩

theorem exists_locate_resolve (m : ManifestPath) {fs : FileSystem}
    (h : fs.locate cwd (Name.ofString root) true = .ok base) :
    ∃ links, fs.locate cwd (Name.ofString (m.resolve root)) true =
      fs.walk true links base m.location := by
  have hroot : root ≠ "" := by
    rintro rfl
    cases h
  obtain ⟨front, tail, hfront, htail, hresolve⟩ := m.exists_resolve_eq hroot
  rw [hfront] at h
  obtain ⟨links, hlocate⟩ := FileSystem.exists_locate_append h htail
  exact ⟨links, by rw [hresolve, hlocate, location]⟩

theorem location_injective : Function.Injective location := by
  intro m m' h
  have hname := congrArg ([FileSystem.slash].intercalate) h
  simp only [location, Text.segments_eq_splitOn, List.intercalate_splitOn] at hname
  exact eq_of_text_eq (Name.ofString_injective hname)

end ManifestPath

namespace Workspace.Locator

variable {fs : FileSystem} {cwd base : List Name} {root extension : String} {ms : List ManifestPath}
  {dir : Node}

/-- A scan lists the ways from the root to the places of the manifests below it. -/
theorem scan_eq_mapM_ofWorkspacePath (hnamed : fs.root.WellNamed)
    (hfind : fs.find cwd (Name.ofString root) = .ok (.directory inode entries)) :
    scan ⟨some root, extension⟩ fs cwd =
      ((Node.directory inode entries).manifestLocations extension).mapM fun names =>
        ManifestPath.ofWorkspacePath root (Path.join root (pathText names)) := by
  obtain ⟨location, hlocate, hget⟩ := FileSystem.find_eq_ok_iff.1 hfind
  have hroot : root ≠ "" := by
    rintro rfl
    cases hlocate
  have hdir := hnamed.of_get? hget
  have hscan : scan ⟨some root, extension⟩ fs cwd =
      (Node.directory inode entries).manifests extension := by
    simp only [scan, hfind]
  rw [hscan]
  refine mapM_congr fun names hnames => ?_
  have hmanifest := (Node.mem_manifestLocations_iff hdir).1 hnames
  refine (ManifestPath.ofWorkspacePath_join hroot ?_ (hmanifest.isProper hdir)).symm
  obtain ⟨-, name, hlast, -⟩ := hmanifest
  exact List.ne_nil_of_mem (List.mem_map_of_mem (List.mem_of_getLast? hlast))

/-- The manifests lead from the root to regular files with the extension, and no two are the
same. -/
structure Faithful (fs : FileSystem) (cwd : List Name) (root extension : String)
    (ms : List ManifestPath) : Prop where
  nodup : ms.Nodup
  resolves : ∀ m ∈ ms, (∃ inode, fs.find cwd (Name.ofString (m.resolve root)) = .ok (.file inode)) ∧
    ∃ name, m.location.getLast? = some name ∧ name.hasExtension extension = true

theorem locate_resolve (hdir : dir.WellNamed)
    (hbase : fs.locate cwd (Name.ofString root) true = .ok base)
    (hget : fs.root.get? base = some dir) {m : ManifestPath}
    (hm : dir.HasManifestAt extension m.location)
    (hlength : ∀ name ∈ m.location, name.length ≤ FileSystem.maxName) :
    fs.locate cwd (Name.ofString (m.resolve root)) true = .ok (base ++ m.location) := by
  obtain ⟨links, hlocate⟩ := m.exists_locate_resolve hbase
  obtain ⟨⟨inode, hi⟩, -⟩ := hm
  rw [hlocate, FileSystem.walk_of_get? hdir hget hi rfl hlength]

theorem nodup_iff (h : dir.WellNamed)
    (hms : ms.map ManifestPath.location =
      (dir.manifestLocations extension).map (·.map Name.respell)) :
    ms.Nodup ↔ ∀ l ∈ dir.manifestLocations extension, ∀ l' ∈ dir.manifestLocations extension,
      l.map Name.respell = l'.map Name.respell → l = l' := by
  have hnodup : (dir.manifestLocations extension).Nodup :=
    (Node.pairwise_lt_manifestLocations h extension).imp fun hlt => by
      rintro rfl
      exact List.lt_irrefl _ hlt
  rw [← List.nodup_map_iff ManifestPath.location_injective, hms,
    List.nodup_map_iff_inj_on hnodup]

theorem faithful_of_respell_eq (h : dir.WellNamed)
    (hbase : fs.locate cwd (Name.ofString root) true = .ok base)
    (hget : fs.root.get? base = some dir)
    (hlength : ∀ l ∈ dir.manifestLocations extension, ∀ name ∈ l,
      name.length ≤ FileSystem.maxName)
    (hms : ms.map ManifestPath.location =
      (dir.manifestLocations extension).map (·.map Name.respell))
    (hspelled : ∀ l ∈ dir.manifestLocations extension, l.map Name.respell = l) :
    Faithful fs cwd root extension ms := by
  constructor
  · refine (nodup_iff h hms).2 fun l hl l' hl' heq => ?_
    rwa [hspelled l hl, hspelled l' hl'] at heq
  · intro m hm
    have hlocation : m.location ∈ dir.manifestLocations extension := by
      have hmem : m.location ∈ ms.map ManifestPath.location := List.mem_map_of_mem hm
      rw [hms, List.mem_map] at hmem
      obtain ⟨l, hl, heq⟩ := hmem
      rwa [← heq, hspelled l hl]
    have hmanifest := (Node.mem_manifestLocations_iff h).1 hlocation
    obtain ⟨⟨inode, hi⟩, hname⟩ := id hmanifest
    have hlocate := locate_resolve h hbase hget hmanifest (hlength _ hlocation)
    refine ⟨⟨inode, FileSystem.find_eq_ok_iff.2 ⟨_, hlocate, ?_⟩⟩, hname⟩
    rw [Node.get?_append, hget, Option.bind_some, hi]

/-- The scan of a directory lists one entry for each manifest below it, under the names that those
on the way to it are shown as. An entry whose names are the manifest's own leads to the manifest. -/
theorem scan_respells (fs : FileSystem) (hnamed : fs.root.WellNamed) (extension : String)
    (hfind : fs.find cwd (Name.ofString root) = .ok (.directory inode entries))
    (hlength : ∀ l, (Node.directory inode entries).HasManifestAt (dropLeadingDots extension) l →
      ∀ name ∈ l, name.length ≤ FileSystem.maxName) :
    ∃ (ms : List ManifestPath) (base : List Name) (locations : List (List Name)),
      (ofExtension (some root) extension).scan fs cwd = .ok ms ∧
      fs.locate cwd (Name.ofString root) true = .ok base ∧
      (∀ l, l ∈ locations ↔
        (Node.directory inode entries).HasManifestAt (dropLeadingDots extension) l) ∧
      locations.Pairwise (· < ·) ∧
      ms.map ManifestPath.location = locations.map (·.map Name.respell) ∧
      (∀ m ∈ ms, m.location ∈ locations →
        fs.locate cwd (Name.ofString (m.resolve root)) true = .ok (base ++ m.location)) ∧
      (ms.Nodup ↔ ∀ l ∈ locations, ∀ l' ∈ locations,
        l.map Name.respell = l'.map Name.respell → l = l') ∧
      ((∀ l ∈ locations, ∀ name ∈ l, ∃ s, name = Name.ofString s) →
        Faithful fs cwd root (dropLeadingDots extension) ms) := by
  obtain ⟨base, hbase, hget⟩ := FileSystem.find_eq_ok_iff.1 hfind
  have hdir := hnamed.of_get? hget
  have hmem {l : List Name} :
      l ∈ (Node.directory inode entries).manifestLocations (dropLeadingDots extension) ↔
        (Node.directory inode entries).HasManifestAt (dropLeadingDots extension) l :=
    Node.mem_manifestLocations_iff hdir
  obtain ⟨ms, hms, htexts⟩ := exists_manifests hdir (dropLeadingDots extension)
  have hlocation := map_location_eq hdir htexts
  refine ⟨ms, base, _, (scan_of_find hfind extension).trans hms, hbase, fun l => hmem,
    Node.pairwise_lt_manifestLocations hdir _, hlocation, fun m _ hm => ?_,
    nodup_iff hdir hlocation, fun htext => ?_⟩
  · exact locate_resolve hdir hbase hget (hmem.1 hm) (hlength _ (hmem.1 hm))
  · have hlength := fun l hl => hlength l (hmem.1 hl)
    refine faithful_of_respell_eq hdir hbase hget hlength hlocation fun l hl => ?_
    exact Name.map_respell_eq_iff.2 (htext l hl)

/-- Two manifests whose names differ in an octet that is not UTF-8. -/
def unreadableEntries : List (Name × Node) :=
  [(0xFE :: Name.ofString ".csproj", .file 2), (0xFF :: Name.ofString ".csproj", .file 3)]

def unreadableLocations : List (List Name) := unreadableEntries.map fun e => [e.1]

def unreadableFiles : FileSystem :=
  { root := .directory 0 [(Name.ofString "w", .directory 1 unreadableEntries)] }

theorem unreadableFiles_wellNamed : unreadableFiles.root.WellNamed := by
  simp only [unreadableFiles, unreadableEntries, Node.wellNamed_directory_iff,
    List.forall_mem_cons, Node.wellNamed_file, List.not_mem_nil, false_implies, implies_true,
    and_true]
  decide +kernel

def unreadablePath : ManifestPath := ⟨"\uFFFD.csproj", by decide +kernel⟩

/-- Both manifests are listed under one path, and nothing lies there. -/
theorem scan_respells_unreadable : ∃ ms,
    (ofExtension (some "/w") "csproj").scan unreadableFiles [] = .ok ms ∧ ¬ms.Nodup ∧
      ∀ m ∈ ms, unreadableFiles.isFile [] (Name.ofString (m.resolve "/w")) = false := by
  have hfind : unreadableFiles.find [] (Name.ofString "/w") =
      .ok (.directory 1 unreadableEntries) := by
    cbv
  have hnone : unreadableFiles.isFile [] (Name.ofString (unreadablePath.resolve "/w")) = false := by
    have hresolve : unreadablePath.resolve "/w" = "/w/\uFFFD.csproj" := by decide +kernel
    rw [hresolve]
    cbv
  have hdir : (Node.directory 1 unreadableEntries).WellNamed :=
    unreadableFiles_wellNamed.of_mem List.mem_cons_self
  have hmanifest (l : List Name) : (Node.directory 1 unreadableEntries).HasManifestAt
      (dropLeadingDots "csproj") l ↔ l ∈ unreadableLocations := by
    have hlocations : (Node.directory 1 unreadableEntries).manifestLocations
        (dropLeadingDots "csproj") = unreadableLocations := by
      cbv
    rw [← Node.mem_manifestLocations_iff hdir, hlocations]
  have hlength : ∀ l ∈ unreadableLocations, ∀ name ∈ l, name.length ≤ FileSystem.maxName := by
    decide +kernel
  have hshown : ∀ l ∈ unreadableLocations, l.map Name.respell = unreadablePath.location := by
    decide +kernel
  obtain ⟨ms, base, locations, hms, -, hmem, -, hlocation, -, hnodup, -⟩ :=
    scan_respells unreadableFiles unreadableFiles_wellNamed "csproj" hfind
      fun l hl => hlength l ((hmanifest l).1 hl)
  have hmem (l : List Name) : l ∈ locations ↔ l ∈ unreadableLocations :=
    (hmem l).trans (hmanifest l)
  refine ⟨ms, hms, fun h => ?_, fun m hm => ?_⟩
  · have hfirst : [0xFE :: Name.ofString ".csproj"] ∈ unreadableLocations := List.mem_cons_self
    have hsecond : [0xFF :: Name.ofString ".csproj"] ∈ unreadableLocations :=
      List.mem_cons_of_mem _ List.mem_cons_self
    have heq := hnodup.1 h _ ((hmem _).2 hfirst) _ ((hmem _).2 hsecond)
      ((hshown _ hfirst).trans (hshown _ hsecond).symm)
    exact absurd heq (by decide +kernel)
  · have hm : m.location ∈ locations.map (·.map Name.respell) :=
      hlocation ▸ List.mem_map_of_mem hm
    obtain ⟨l, hl, heq⟩ := List.mem_map.1 hm
    obtain rfl : m = unreadablePath :=
      ManifestPath.location_injective (heq.symm.trans (hshown l ((hmem l).1 hl)))
    exact hnone

end Workspace.Locator

end Remedy
