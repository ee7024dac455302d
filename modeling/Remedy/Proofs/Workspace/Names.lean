import Remedy.Proofs.Files.Listing
import Remedy.Proofs.Text.Utf8
import Remedy.Workspace.Locator

namespace Remedy.Files

open Text

namespace Name

theorem ofString_injective {s t : String} (h : ofString s = ofString t) : s = t :=
  String.toList_injective (Utf8.encode_injective h)

theorem ofString_append (s t : String) : ofString (s ++ t) = ofString s ++ ofString t := by
  rw [ofString, String.toList_append, Utf8.encode_append, ofString, ofString]

theorem slash_mem_ofString_iff : FileSystem.slash ∈ ofString s ↔ '/' ∈ s.toList :=
  Utf8.mem_encode_iff (a := '/') (by decide)

theorem isProper_ofString_iff :
    (ofString s).IsProper ↔ s ≠ "" ∧ s ≠ "." ∧ s ≠ ".." ∧ '/' ∉ s.toList := by
  have hnil : ofString s = [] ↔ s = "" := ⟨fun h => ofString_injective h, fun h => h ▸ rfl⟩
  have hcurrent : ofString s = current ↔ s = "." :=
    ⟨fun h => ofString_injective h, fun h => h ▸ rfl⟩
  have hparent : ofString s = parent ↔ s = ".." := ⟨fun h => ofString_injective h, fun h => h ▸ rfl⟩
  constructor
  · rintro ⟨h₁, h₂, h₃, h₄⟩
    exact ⟨mt hnil.2 h₁, mt hcurrent.2 h₂, mt hparent.2 h₃, mt slash_mem_ofString_iff.2 h₄⟩
  · rintro ⟨h₁, h₂, h₃, h₄⟩
    exact ⟨mt hnil.1 h₁, mt hcurrent.1 h₂, mt hparent.1 h₃, mt slash_mem_ofString_iff.1 h₄⟩

/-- The octets of what a name is shown as. They are the name itself if it is UTF-8. -/
def respell (name : Name) : Name := ofString (Utf8.decodeLossy name)

theorem respell_ofString (s : String) : (ofString s).respell = ofString s :=
  congrArg ofString (Utf8.decodeLossy_encode s)

theorem map_respell_eq_iff {l : List Name} :
    l.map respell = l ↔ ∀ name ∈ l, ∃ s, name = ofString s := by
  induction l with
  | nil => simp
  | cons name l ih =>
    rw [List.map_cons, List.cons.injEq, ih, List.forall_mem_cons]
    refine and_congr_left fun _ => ⟨fun h => ⟨Utf8.decodeLossy name, h.symm⟩, ?_⟩
    rintro ⟨s, rfl⟩
    exact respell_ofString s

theorem map_respell_ofString (names : List String) :
    (names.map ofString).map respell = names.map ofString := by
  refine map_respell_eq_iff.2 fun name hname => ?_
  obtain ⟨s, -, rfl⟩ := List.mem_map.1 hname
  exact ⟨s, rfl⟩

theorem eq_ofString_of_decodeLossy (h : Utf8.decodeLossy name = s)
    (hs : ∀ c ∈ s.toList, c.toNat < 128 ∧ c ≠ '\x00') : name = ofString s := by
  subst h
  refine Utf8.eq_encode_of_decode hs (Utf8.decode_of_decodeLossy fun hm => ?_)
  exact absurd (hs _ hm).1 (by decide)

theorem slash_mem_of_decodeLossy (h : '/' ∈ (Utf8.decodeLossy name).toList) :
    FileSystem.slash ∈ name := by
  rw [Utf8.decodeLossy, String.toList_ofList] at h
  obtain ⟨c, hc, heq⟩ := List.mem_map.1 h
  cases c with
  | some c =>
    obtain rfl : c = '/' := heq
    exact (Utf8.mem_of_mem_decode (by decide) (by decide) name).1 hc
  | none => exact absurd heq (by decide)

theorem IsProper.respell {name : Name} (h : name.IsProper) : name.respell.IsProper := by
  refine isProper_ofString_iff.2 ⟨fun hs => ?_, fun hs => ?_, fun hs => ?_, fun hs => ?_⟩
  · exact h.ne_nil (eq_ofString_of_decodeLossy hs (by simp))
  · exact h.ne_current (eq_ofString_of_decodeLossy hs (by simp))
  · exact h.ne_parent (eq_ofString_of_decodeLossy hs (by simp))
  · exact h.slash_notMem (slash_mem_of_decodeLossy hs)

theorem extension?_of_notMem {name : Name} (h : 46 ∉ name) : name.extension? = none := by
  have hne : ∀ b ∈ name.reverse, decide (b ≠ 46) = true := fun b hb =>
    decide_eq_true fun heq => h (heq ▸ List.mem_reverse.1 hb)
  have htake : (name.reverse ++ []).takeWhile (· ≠ 46) = name.reverse ++ [].takeWhile (· ≠ 46) :=
    List.takeWhile_append_of_pos hne
  rw [List.takeWhile_nil, List.append_nil] at htake
  rw [extension?, htake]
  simp

theorem extension?_dot (hback : 46 ∉ back) (hne : front ++ 46 :: back ≠ parent) :
    extension? (front ++ 46 :: back) = if front = [] then none else some back := by
  have hlength : (front ++ 46 :: back).length - back.length = front.length + 1 := by
    simp only [List.length_append, List.length_cons]
    omega
  rw [extension?, if_neg hne]
  simp only [takeWhile_reverse hback, List.reverse_reverse, hlength]
  cases front with
  | nil => rfl
  | cons b front => simp

end Name

/-- Whether two texts are equal up to the case of ASCII letters. -/
def EqualUpToCase (s t : String) : Prop := s.toList.map Char.toLower = t.toList.map Char.toLower

instance : Decidable (EqualUpToCase s t) := inferInstanceAs (Decidable (_ = _))

/-- A manifest's name is a stem, which is not empty, a dot and, up to case, the extension. -/
def IsManifestName (extension name : String) : Prop :=
  ∃ stem found, name = stem ++ "." ++ found ∧ stem ≠ "" ∧ '.' ∉ found.toList ∧
    EqualUpToCase found extension

theorem dot_mem_of_isManifestName (h : IsManifestName extension name) : '.' ∈ name.toList := by
  obtain ⟨stem, found, rfl, -⟩ := h
  simp

theorem dot_mem_of_hasExtension {name : Name} (h : name.hasExtension extension = true) :
    '.' ∈ (Utf8.decodeLossy name).toList := by
  have hdot : 46 ∈ name := by
    by_cases hdot : 46 ∈ name
    · exact hdot
    · rw [Name.hasExtension, Name.extension?_of_notMem hdot] at h
      cases h
  rw [Utf8.decodeLossy, String.toList_ofList]
  exact List.mem_map.2 ⟨some '.', (Utf8.mem_decode_of_mem (by decide) name).1 hdot, rfl⟩

theorem isManifestName_dot_iff (hback : '.' ∉ back) :
    IsManifestName extension (String.ofList (front ++ '.' :: back)) ↔
      front ≠ [] ∧ EqualUpToCase (String.ofList back) extension := by
  constructor
  · rintro ⟨stem, found, heq, hstem, hfound, he⟩
    have hlist : front ++ '.' :: back = stem.toList ++ '.' :: found.toList := by
      simpa using congrArg String.toList heq
    obtain ⟨rfl, rfl⟩ := append_sep_inj hback hfound hlist
    exact ⟨mt String.toList_eq_nil_iff.1 hstem, by simpa using he⟩
  · rintro ⟨hfront, he⟩
    refine ⟨String.ofList front, String.ofList back, ?_, ?_, ?_, he⟩
    · apply String.toList_injective
      simp
    · simpa using hfront
    · simpa using hback

theorem hasExtension_ofString_iff (hs : s ≠ "..") (extension : String) :
    (Name.ofString s).hasExtension extension = true ↔ IsManifestName extension s := by
  obtain ⟨cs, rfl⟩ : ∃ cs, s = String.ofList cs := ⟨s.toList, String.ofList_toList.symm⟩
  have hparent : Name.ofString (String.ofList cs) ≠ Name.parent :=
    fun h => hs (Name.ofString_injective h)
  have hdot (ds : List Char) : 46 ∈ Utf8.encode ds ↔ '.' ∈ ds :=
    Utf8.mem_encode_iff (a := '.') (by decide)
  rw [Name.ofString, String.toList_ofList] at hparent ⊢
  obtain hnot | ⟨front, back, rfl, hback⟩ := notMem_or_exists_append '.' cs
  · rw [Name.hasExtension, Name.extension?_of_notMem (mt (hdot cs).1 hnot)]
    refine ⟨nofun, fun h => absurd (dot_mem_of_isManifestName h) ?_⟩
    rwa [String.toList_ofList]
  · have hencode : Utf8.encode (front ++ '.' :: back) =
        Utf8.encode front ++ 46 :: Utf8.encode back := by
      rw [Utf8.encode_append, Utf8.encode_cons]
      rfl
    rw [hencode] at hparent ⊢
    rw [isManifestName_dot_iff hback, Name.hasExtension,
      Name.extension?_dot (mt (hdot back).1 hback) hparent]
    cases front with
    | nil => simp [Utf8.encode]
    | cons c front =>
      have hfront : Utf8.encode (c :: front) ≠ [] := fun h =>
        List.cons_ne_nil c front (Utf8.encode_injective h)
      have hlossy : Utf8.decodeLossy (Utf8.encode back) = String.ofList back := by
        simpa using Utf8.decodeLossy_encode (String.ofList back)
      simp [hfront, hlossy, EqualUpToCase]

end Remedy.Files

namespace Remedy.Workspace

open Files

variable {names : List String}

theorem ofSegment?_toList (h : (Name.ofString s).IsProper) :
    Component.ofSegment? s.toList = some (.normal s) := by
  obtain ⟨hnil, hcurrent, hparent, -⟩ := Name.isProper_ofString_iff.1 h
  rw [Component.ofSegment?, String.ofList_toList]
  · exact fun heq => hnil (String.toList_injective heq)
  · exact fun heq => hcurrent (String.toList_injective heq)
  · exact fun heq => hparent (String.toList_injective heq)

theorem filterMap_ofSegment? (h : ∀ s ∈ names, (Name.ofString s).IsProper) :
    (names.map String.toList).filterMap Component.ofSegment? = names.map .normal := by
  induction names with
  | nil => rfl
  | cons s names ih =>
    obtain ⟨hs, hnames⟩ := List.forall_mem_cons.1 h
    rw [List.map_cons, List.filterMap_cons_some (ofSegment?_toList hs), ih hnames, List.map_cons]

theorem segments_intercalate_names (hne : names ≠ [])
    (h : ∀ s ∈ names, (Name.ofString s).IsProper) :
    Text.segments '/' ("/".intercalate names).toList = names.map String.toList := by
  rw [String.toList_intercalate]
  refine Text.segments_intercalate (by simpa using hne) fun cs hcs => ?_
  obtain ⟨s, hs, rfl⟩ := List.mem_map.1 hcs
  exact (Name.isProper_ofString_iff.1 (h s hs)).2.2.2

/-- Proper names joined by slashes are the components of the path that they make. -/
theorem components_intercalate (hne : names ≠ [])
    (h : ∀ s ∈ names, (Name.ofString s).IsProper) :
    Path.components ("/".intercalate names) = names.map .normal := by
  have hsegments := segments_intercalate_names hne h
  have hproper {cs : List Char} (hcs : cs ∈ names.map String.toList) : cs ≠ [] ∧ cs ≠ ['.'] := by
    obtain ⟨s, hs, rfl⟩ := List.mem_map.1 hcs
    obtain ⟨hnil, hcurrent, -⟩ := Name.isProper_ofString_iff.1 (h s hs)
    exact ⟨fun heq => hnil (String.toList_injective heq),
      fun heq => hcurrent (String.toList_injective heq)⟩
  rw [Path.components]
  split
  · next rest heq =>
    rw [heq, Text.segments_cons_sep] at hsegments
    exact absurd rfl (hproper (hsegments ▸ List.mem_cons_self)).1
  · rw [hsegments]
    split
    · next rest heq => exact absurd rfl (hproper (heq ▸ List.mem_cons_self)).2
    · exact filterMap_ofSegment? h

theorem mem_toList_intercalate (hs : s ∈ names) (hc : c ∈ s.toList) :
    c ∈ ("/".intercalate names).toList := by
  induction names with
  | nil => cases hs
  | cons first names ih =>
    by_cases hnil : names = []
    · subst hnil
      rwa [String.intercalate_singleton, ← List.mem_singleton.1 hs]
    · rw [String.intercalate_cons_of_ne_nil hnil, String.toList_append, String.toList_append]
      obtain rfl | hs := List.mem_cons.1 hs
      · exact List.mem_append_left _ (List.mem_append_left _ hc)
      · exact List.mem_append_right _ (ih hs)

theorem isAdmissible_intercalate (h : ∀ s ∈ names, (Name.ofString s).IsProper) (hs : s ∈ names)
    (hc : c ∈ s.toList) (hblank : Text.isBlank c = false) :
    ManifestPath.isAdmissible ("/".intercalate names) = true := by
  have hallBlank : Text.allBlank ("/".intercalate names) = false := by
    rw [Text.allBlank, List.all_eq_false]
    exact ⟨c, mem_toList_intercalate hs hc, by simp [hblank]⟩
  rw [ManifestPath.isAdmissible, hallBlank, components_intercalate (List.ne_nil_of_mem hs) h]
  simp [Component.isDescending]

theorem ofNames_eq (names : List String) :
    ManifestPath.ofNames names = ManifestPath.ofString ("/".intercalate names) := by
  have htext : String.ofList (['/'].intercalate (names.map String.toList)) =
      "/".intercalate names := by
    rw [← String.ofList_toList (s := "/".intercalate names), String.toList_intercalate]
    rfl
  rw [ManifestPath.ofNames, htext]

theorem ofNames_eq_ok (h : ManifestPath.isAdmissible ("/".intercalate names) = true) :
    ManifestPath.ofNames names = .ok ⟨"/".intercalate names, h⟩ := by
  rw [ofNames_eq, ManifestPath.ofString, dif_pos h]

end Remedy.Workspace
