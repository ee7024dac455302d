import Mathlib
import Remedy.Proofs.Files.Walk
import Remedy.Proofs.Workspace.Names

namespace Remedy

open Files Workspace

/-- The names on a manifest path, in octets. -/
def ManifestPath.location (m : ManifestPath) : List Name :=
  Text.segments FileSystem.slash (Name.ofString m.text)

/-- The text of the path that names make. -/
def pathText (l : List Name) : String := "/".intercalate (l.map Text.Utf8.decodeLossy)

namespace Files.Node

variable {n m : Node} {l : List Name} {extension : String}

theorem WellNamed.isProper (h : n.WellNamed) (hl : n.get? l = some m) :
    ∀ name ∈ l, name.IsProper := by
  induction l generalizing n with
  | nil => nofun
  | cons name l ih =>
    cases n with
    | directory inode entries =>
      obtain ⟨n, hn, hl⟩ := h.get?_cons.1 hl
      exact List.forall_mem_cons.2 ⟨(h [] inode entries rfl).2 _ hn, ih (h.of_mem hn) hl⟩
    | file | link | device | fifo => cases hl

/-- A regular file lies at the location, and its name has the extension. -/
def HasManifestAt (n : Node) (extension : String) (l : List Name) : Prop :=
  (∃ inode, n.get? l = some (.file inode)) ∧
    ∃ name, l.getLast? = some name ∧ name.hasExtension extension = true

/-- The locations of the manifests, in the order of the tree. -/
def manifestLocations (n : Node) (extension : String) : List (List Name) :=
  n.files.filter fun l =>
    match l.getLast? with
    | some name => name.hasExtension extension
    | none => false

theorem mem_manifestLocations_iff (h : n.WellNamed) :
    l ∈ n.manifestLocations extension ↔ n.HasManifestAt extension l := by
  rw [manifestLocations, List.mem_filter, mem_files_iff h, HasManifestAt]
  refine and_congr_right fun _ => ?_
  cases l.getLast? with
  | some name => simp
  | none => simp

theorem pairwise_lt_manifestLocations (h : n.WellNamed) (extension : String) :
    (n.manifestLocations extension).Pairwise (· < ·) :=
  (pairwise_lt_files h).filter _

end Files.Node

theorem segments_pathText (hne : l ≠ []) (hproper : ∀ name ∈ l, Name.IsProper name) :
    Text.segments FileSystem.slash (Name.ofString (pathText l)) = l.map Name.respell := by
  have hnames : ∀ s ∈ l.map Text.Utf8.decodeLossy, (Name.ofString s).IsProper := by
    intro s hs
    obtain ⟨name, hname, rfl⟩ := List.mem_map.1 hs
    exact (hproper name hname).respell
  have hsegments := segments_intercalate_names (by simpa using hne) hnames
  have hencode := Text.Utf8.segments_encode (a := '/') (by decide) (pathText l).toList
  rw [pathText, hsegments] at hencode
  refine hencode.trans ?_
  simp [Name.respell, Name.ofString]

theorem Files.Node.HasManifestAt.isProper {n : Node} (hl : n.HasManifestAt extension l)
    (h : n.WellNamed) : ∀ s ∈ l.map Text.Utf8.decodeLossy, (Name.ofString s).IsProper := by
  obtain ⟨⟨inode, hi⟩, -⟩ := hl
  intro s hs
  obtain ⟨name, hname, rfl⟩ := List.mem_map.1 hs
  exact (h.isProper hi name hname).respell

theorem exists_ofNames {n : Node} (h : n.WellNamed) (hl : n.HasManifestAt extension l) :
    ∃ m, ManifestPath.ofNames (l.map Text.Utf8.decodeLossy) = .ok m ∧ m.text = pathText l := by
  have hproper := hl.isProper h
  obtain ⟨-, name, hlast, he⟩ := hl
  have hname : name ∈ l := List.mem_of_getLast? hlast
  exact ⟨_, ofNames_eq_ok (isAdmissible_intercalate hproper (List.mem_map_of_mem hname)
    (dot_mem_of_hasExtension he) rfl), rfl⟩

theorem mapM_congr {f g : α → Except ε β} {as : List α} (h : ∀ a ∈ as, f a = g a) :
    as.mapM f = as.mapM g := by
  induction as with
  | nil => rfl
  | cons a as ih =>
    obtain ⟨ha, has⟩ := List.forall_mem_cons.1 h
    rw [List.mapM_cons, List.mapM_cons, ha, ih has]

theorem exists_mapM_ok {f : α → Except ε β} {φ : β → γ} {ψ : α → γ} {as : List α}
    (h : ∀ a ∈ as, ∃ b, f a = .ok b ∧ φ b = ψ a) :
    ∃ bs, as.mapM f = .ok bs ∧ bs.map φ = as.map ψ := by
  induction as with
  | nil => exact ⟨[], rfl, rfl⟩
  | cons a as ih =>
    obtain ⟨ha, has⟩ := List.forall_mem_cons.1 h
    obtain ⟨b, hb, hφ⟩ := ha
    obtain ⟨bs, hbs, hφs⟩ := ih has
    refine ⟨b :: bs, ?_, by rw [List.map_cons, List.map_cons, hφ, hφs]⟩
    rw [List.mapM_cons, hb, hbs]
    rfl

/-- The manifests of a tree stand for their locations one by one. -/
theorem exists_manifests {n : Node} (h : n.WellNamed) (extension : String) :
    ∃ ms, n.manifests extension = .ok ms ∧
      ms.map (·.text) = (n.manifestLocations extension).map pathText :=
  exists_mapM_ok fun _ hl => exists_ofNames h ((Node.mem_manifestLocations_iff h).1 hl)

theorem map_location_eq {n : Node} {ms : List ManifestPath} (h : n.WellNamed)
    (hms : ms.map ManifestPath.text = (n.manifestLocations extension).map pathText) :
    ms.map ManifestPath.location =
      (n.manifestLocations extension).map fun l => l.map Name.respell := by
  have hlocation : ms.map ManifestPath.location = (ms.map ManifestPath.text).map fun text =>
      Text.segments FileSystem.slash (Name.ofString text) := by
    rw [List.map_map]
    rfl
  rw [hlocation, hms, List.map_map]
  refine List.map_congr_left fun l hl => ?_
  obtain ⟨⟨inode, hi⟩, name, hlast, -⟩ := (Node.mem_manifestLocations_iff h).1 hl
  exact segments_pathText (List.ne_nil_of_mem (List.mem_of_getLast? hlast)) (h.isProper hi)

namespace Files.Node

variable {n m : Node} {l : List Name} {entries : List (Name × Node)} {extension : String}
  {names : List String}

/-- All names in the tree are UTF-8. -/
def InText (n : Node) : Prop :=
  ∀ l m, n.get? l = some m → ∀ name ∈ l, ∃ s, name = Name.ofString s

theorem InText.exists_names (h : n.InText) (hl : n.get? l = some m) :
    ∃ names : List String, l = names.map Name.ofString := by
  have hnames := h l m hl
  clear hl
  induction l with
  | nil => exact ⟨[], rfl⟩
  | cons name l ih =>
    obtain ⟨⟨s, rfl⟩, hl⟩ := List.forall_mem_cons.1 hnames
    obtain ⟨names, rfl⟩ := ih hl
    exact ⟨s :: names, rfl⟩

theorem InText.of_get? (h : n.InText) (hm : n.get? l = some m) : m.InText := by
  intro l' k hk name hname
  refine h (l ++ l') k ?_ name (List.mem_append_right l hname)
  rw [get?_append, hm, Option.bind_some, hk]

@[simp]
theorem inText_file (inode : Nat) : (file inode).InText := by
  intro l m hm name hname
  cases l with
  | nil => cases hname
  | cons name l => cases hm

@[simp]
theorem inText_link (target : List UInt8) : (link target).InText := by
  intro l m hm name hname
  cases l with
  | nil => cases hname
  | cons name l => cases hm

theorem inText_directory (h : ∀ e ∈ entries, (∃ s, e.1 = Name.ofString s) ∧ e.2.InText) :
    (directory inode entries).InText := by
  intro l m hm name hname
  cases l with
  | nil => cases hname
  | cons first l =>
    rw [get?, Option.bind_eq_some_iff] at hm
    obtain ⟨n, hn, hm⟩ := hm
    obtain ⟨before, after, rfl, -⟩ := List.lookup_eq_some_iff.1 hn
    obtain ⟨hfirst, hn⟩ := h (first, n) (by simp)
    obtain rfl | hname := List.mem_cons.1 hname
    · exact hfirst
    · exact hn l m hm name hname

theorem pathText_map_ofString (names : List String) :
    pathText (names.map Name.ofString) = "/".intercalate names := by
  rw [pathText, List.map_map]
  congr 1
  exact (List.map_congr_left fun s _ => Text.Utf8.decodeLossy_encode s).trans (List.map_id _)

/-- The names lead to a regular file with a manifest's name. -/
def HasManifest (n : Node) (extension : String) (names : List String) : Prop :=
  (∃ inode, n.get? (names.map Name.ofString) = some (.file inode)) ∧
    ∃ name, names.getLast? = some name ∧ IsManifestName extension name

theorem hasManifestAt_iff (h : n.WellNamed) :
    n.HasManifestAt extension (names.map Name.ofString) ↔ n.HasManifest extension names := by
  refine and_congr_right fun ⟨inode, hi⟩ => ?_
  rw [List.getLast?_map]
  cases hlast : names.getLast? with
  | none => simp
  | some name =>
    have hname := h.isProper hi _ (List.mem_map_of_mem (List.mem_of_getLast? hlast))
    have hparent := (Name.isProper_ofString_iff.1 hname).2.2.1
    simp [hasExtension_ofString_iff hparent]

/-- What is listed of a tree in which all names are UTF-8. -/
structure Lists (n : Node) (extension : String) (ms : List ManifestPath) : Prop where
  complete : ∀ m, m ∈ ms ↔
    ∃ names, n.HasManifest extension names ∧ m.text = "/".intercalate names
  distinct : ∀ names names', n.HasManifest extension names → n.HasManifest extension names' →
    "/".intercalate names = "/".intercalate names' → names = names'
  once : ∀ names, n.HasManifest extension names →
    (ms.map (·.text)).count ("/".intercalate names) = 1
  increasing : ms.Pairwise fun m m' => m.location < m'.location
  noDirectory : ∀ names inode entries,
    n.get? (names.map Name.ofString) = some (.directory inode entries) →
      ∀ m ∈ ms, m.text ≠ "/".intercalate names
  /-- Neither a link nor anything behind it. -/
  noLink : ∀ names rest target, n.get? (names.map Name.ofString) = some (.link target) →
    ∀ m ∈ ms, m.text ≠ "/".intercalate (names ++ rest)

theorem HasManifest.ne_nil (h : n.HasManifest extension names) : names ≠ [] := by
  obtain ⟨-, name, hlast, -⟩ := h
  exact List.ne_nil_of_mem (List.mem_of_getLast? hlast)

/-- Names at which something lies can be read off their path. -/
theorem WellNamed.segments_intercalate (h : n.WellNamed) (hne : names ≠ [])
    (hm : n.get? (names.map Name.ofString) = some m) :
    Text.segments FileSystem.slash (Name.ofString ("/".intercalate names)) =
      names.map Name.ofString := by
  have hsegments := segments_pathText (by simpa using hne) (h.isProper hm)
  rwa [pathText_map_ofString, Name.map_respell_ofString] at hsegments

theorem HasManifest.segments_intercalate (hn : n.HasManifest extension names) (h : n.WellNamed) :
    Text.segments FileSystem.slash (Name.ofString ("/".intercalate names)) =
      names.map Name.ofString :=
  h.segments_intercalate hn.ne_nil hn.1.choose_spec

theorem mem_manifestLocations_ofString_iff (h : n.WellNamed) :
    names.map Name.ofString ∈ n.manifestLocations extension ↔ n.HasManifest extension names :=
  (mem_manifestLocations_iff h).trans (hasManifestAt_iff h)

theorem InText.exists_names_of_mem (h : n.InText) (hn : n.WellNamed)
    (hl : l ∈ n.manifestLocations extension) :
    ∃ names, l = names.map Name.ofString ∧ n.HasManifest extension names := by
  obtain ⟨⟨inode, hi⟩, -⟩ := (mem_manifestLocations_iff hn).1 hl
  obtain ⟨names, rfl⟩ := h.exists_names hi
  exact ⟨names, rfl, (mem_manifestLocations_ofString_iff hn).1 hl⟩

section Manifests

variable {ms : List ManifestPath}

theorem mem_iff_hasManifest (h : n.WellNamed) (ht : n.InText)
    (hms : ms.map ManifestPath.text = (n.manifestLocations extension).map pathText)
    (m : ManifestPath) :
    m ∈ ms ↔ ∃ names, n.HasManifest extension names ∧ m.text = "/".intercalate names := by
  have hinjective : Function.Injective ManifestPath.text := fun _ _ => ManifestPath.eq_of_text_eq
  rw [← List.mem_map_of_injective hinjective, hms, List.mem_map]
  constructor
  · rintro ⟨l, hl, heq⟩
    obtain ⟨names, rfl, hnames⟩ := ht.exists_names_of_mem h hl
    exact ⟨names, hnames, heq ▸ pathText_map_ofString names⟩
  · rintro ⟨names, hnames, heq⟩
    exact ⟨names.map Name.ofString, (mem_manifestLocations_ofString_iff h).2 hnames,
      heq ▸ pathText_map_ofString names⟩

theorem map_location_eq_manifestLocations (h : n.WellNamed) (ht : n.InText)
    (hms : ms.map ManifestPath.text = (n.manifestLocations extension).map pathText) :
    ms.map ManifestPath.location = n.manifestLocations extension := by
  rw [map_location_eq h hms]
  refine (List.map_congr_left fun l hl => ?_).trans (List.map_id _)
  obtain ⟨names, rfl, -⟩ := ht.exists_names_of_mem h hl
  exact Name.map_respell_ofString names

/-- A path that begins with the names of a node leads to the node first. -/
theorem WellNamed.exists_segments_append (h : n.WellNamed)
    (hm : n.get? (names.map Name.ofString) = some m) (rest : List String) :
    ∃ l, Text.segments FileSystem.slash (Name.ofString ("/".intercalate (names ++ rest))) =
      names.map Name.ofString ++ l := by
  by_cases hne : names = []
  · subst hne
    exact ⟨_, rfl⟩
  · by_cases hrest : rest = []
    · exact ⟨[], by rw [hrest, List.append_nil, List.append_nil, h.segments_intercalate hne hm]⟩
    · refine ⟨Text.segments FileSystem.slash (Name.ofString ("/".intercalate rest)), ?_⟩
      rw [String.intercalate_append_of_ne_nil hne hrest, ← h.segments_intercalate hne hm,
        ← Text.segments_append_sep, Name.ofString_append, Name.ofString_append, List.append_assoc]
      rfl

theorem lists_of_manifests (h : n.WellNamed) (ht : n.InText)
    (hms : ms.map ManifestPath.text = (n.manifestLocations extension).map pathText) :
    n.Lists extension ms := by
  have hcomplete := mem_iff_hasManifest h ht hms
  have hlocation := map_location_eq_manifestLocations h ht hms
  have hincreasing : ms.Pairwise fun m m' => m.location < m'.location :=
    List.pairwise_map.1 (hlocation ▸ pairwise_lt_manifestLocations h extension)
  have hfile : ∀ m ∈ ms, ∃ inode, n.get? m.location = some (.file inode) := by
    intro m hm
    obtain ⟨names, hnames, heq⟩ := (hcomplete m).1 hm
    rw [ManifestPath.location, heq, hnames.segments_intercalate h]
    exact hnames.1
  refine ⟨hcomplete, ?distinct, ?once, hincreasing, ?noDirectory, ?noLink⟩
  case distinct =>
    intro names names' hn hn' heq
    have hmap : names.map Name.ofString = names'.map Name.ofString := by
      rw [← hn.segments_intercalate h, ← hn'.segments_intercalate h, heq]
    exact List.map_injective_iff.2 (fun _ _ => Name.ofString_injective) hmap
  case once =>
    intro names hn
    have hmem : names.map Name.ofString ∈ n.manifestLocations extension :=
      (mem_manifestLocations_ofString_iff h).2 hn
    have hnodup : (ms.map ManifestPath.text).Nodup := by
      refine List.pairwise_map.2 (hincreasing.imp fun {m m'} hlt heq => ?_)
      rw [ManifestPath.location, heq] at hlt
      exact List.lt_irrefl _ hlt
    refine List.count_eq_one_of_mem hnodup ?_
    rw [hms, ← pathText_map_ofString]
    exact List.mem_map_of_mem hmem
  case noDirectory =>
    intro names inode entries hd m hm heq
    obtain ⟨i, hi⟩ := hfile m hm
    by_cases hne : names = []
    · have hadmissible := m.admissible
      rw [heq, hne] at hadmissible
      exact absurd hadmissible (by decide)
    · rw [ManifestPath.location, heq, h.segments_intercalate hne hd, hd] at hi
      cases hi
  case noLink =>
    intro names rest target hlink m hm heq
    obtain ⟨i, hi⟩ := hfile m hm
    obtain ⟨l, hl⟩ := h.exists_segments_append hlink rest
    rw [ManifestPath.location, heq, hl, get?_append, hlink, Option.bind_some] at hi
    cases l with
    | nil => cases hi
    | cons name l => cases hi

end Manifests

end Files.Node

namespace Workspace.Locator

variable {fs : FileSystem} {cwd : List Name} {root : String}

theorem scan_of_find
    (h : fs.find cwd (Name.ofString root) = .ok (.directory inode entries)) (extension : String) :
    (ofExtension (some root) extension).scan fs cwd =
      (Node.directory inode entries).manifests (dropLeadingDots extension) := by
  rw [scan, ofExtension]
  dsimp only
  rw [h]

theorem scan_of_isDirectory_eq_false (h : fs.isDirectory cwd (Name.ofString root) = false)
    (extension : String) :
    (ofExtension (some root) extension).scan fs cwd =
      .error (.enumeration ("workspace root " ++ root ++ " is not a directory")) := by
  rw [FileSystem.isDirectory] at h
  rw [scan, ofExtension]
  dsimp only
  cases hfind : fs.find cwd (Name.ofString root) with
  | error e => rfl
  | ok node =>
    cases node with
    | directory inode entries =>
      rw [hfind] at h
      cases h
    | file | link | device | fifo => rfl

/-- The scan of a directory lists every manifest below it and nothing else, whatever the manifests
are called. -/
theorem scan_complete (fs : FileSystem) (hnamed : fs.root.WellNamed) (htext : fs.root.InText)
    (cwd : List Name) (extension : String) :
    (∀ root inode entries, fs.find cwd (Name.ofString root) = .ok (.directory inode entries) →
      ∃ ms, (ofExtension (some root) extension).scan fs cwd = .ok ms ∧
        (Node.directory inode entries).Lists (dropLeadingDots extension) ms) ∧
    (∀ root, fs.isDirectory cwd (Name.ofString root) = false →
      (ofExtension (some root) extension).scan fs cwd =
        .error (.enumeration ("workspace root " ++ root ++ " is not a directory"))) ∧
    (ofExtension none extension).scan fs cwd = .ok [] := by
  refine ⟨fun root inode entries hfind => ?_,
    fun _ hroot => scan_of_isDirectory_eq_false hroot extension, rfl⟩
  obtain ⟨l, -, hl⟩ := FileSystem.find_eq_ok_iff.1 hfind
  have hnamed := hnamed.of_get? hl
  obtain ⟨ms, hms, htexts⟩ := exists_manifests hnamed (dropLeadingDots extension)
  refine ⟨ms, ?_, Node.lists_of_manifests hnamed (htext.of_get? hl) htexts⟩
  rw [scan_of_find hfind, hms]

/-- A directory with manifests, real and not, and beside it a link to it. -/
def sampleEntries : List (Name × Node) :=
  [(Name.ofString "src", .directory 2
      [(Name.ofString "App.CSPROJ", .file 3), (Name.ofString ".csproj", .file 4)]),
    (Name.ofString "old.csproj", .directory 5 [(Name.ofString " é..csproj", .file 6)]),
    (Name.ofString "link.csproj", .link (Name.ofString "src"))]

def sampleFiles : FileSystem :=
  { root := .directory 0 [(Name.ofString "w", .directory 1 sampleEntries)] }

theorem sampleFiles_wellNamed : sampleFiles.root.WellNamed := by
  simp only [sampleFiles, sampleEntries, Node.wellNamed_directory_iff, List.forall_mem_cons,
    Node.wellNamed_file, Node.wellNamed_link, List.not_mem_nil, false_implies, implies_true,
    and_true]
  decide +kernel

theorem sampleFiles_inText : sampleFiles.root.InText := by
  refine Node.inText_directory (List.forall_mem_singleton.2 ⟨⟨_, rfl⟩, Node.inText_directory ?_⟩)
  simp only [sampleEntries, List.forall_mem_cons, Node.inText_link, List.not_mem_nil,
    false_implies, implies_true, and_true]
  refine ⟨⟨⟨_, rfl⟩, Node.inText_directory ?_⟩, ⟨⟨_, rfl⟩, Node.inText_directory ?_⟩, ⟨_, rfl⟩⟩
  · exact List.forall_mem_cons.2 ⟨⟨⟨_, rfl⟩, Node.inText_file 3⟩,
      List.forall_mem_singleton.2 ⟨⟨_, rfl⟩, Node.inText_file 4⟩⟩
  · exact List.forall_mem_singleton.2 ⟨⟨_, rfl⟩, Node.inText_file 6⟩

theorem scan_complete_sample : ∃ ms,
    (ofExtension (some "/w") ".csproj").scan sampleFiles [] = .ok ms ∧
      (ms.map (·.text)).count "src/App.CSPROJ" = 1 ∧
      (ms.map (·.text)).count "old.csproj/ é..csproj" = 1 ∧
      ∀ m ∈ ms, m.text ≠ "old.csproj" ∧ m.text ≠ "link.csproj/App.CSPROJ" := by
  obtain ⟨hdirectory, -, -⟩ :=
    scan_complete sampleFiles sampleFiles_wellNamed sampleFiles_inText [] ".csproj"
  obtain ⟨ms, hms, hlists⟩ := hdirectory "/w" 1 sampleEntries (by cbv)
  refine ⟨ms, hms, ?_, ?_, fun m hm => ⟨?_, ?_⟩⟩
  · refine hlists.once ["src", "App.CSPROJ"] ⟨⟨3, rfl⟩, "App.CSPROJ", rfl, ?_⟩
    exact ⟨"App", "CSPROJ", by decide, by decide, by decide, by decide +kernel⟩
  · refine hlists.once ["old.csproj", " é..csproj"] ⟨⟨6, rfl⟩, " é..csproj", rfl, ?_⟩
    exact ⟨" é.", "csproj", by decide, by decide, by decide, by decide +kernel⟩
  · exact hlists.noDirectory ["old.csproj"] 5 _ rfl m hm
  · exact hlists.noLink ["link.csproj"] ["App.CSPROJ"] _ rfl m hm

end Workspace.Locator

end Remedy
