import Mathlib.Logic.Basic
import Remedy.Proofs.Workspace.Components

namespace Remedy.Workspace

namespace Component

/-- Goes on from a place, no name being a link: `..` takes back the name before it. -/
def follow (place : List Component) : Component → List Component
  | .current => place
  | .parent =>
    match place.getLast? with
    | some (.normal _) => place.dropLast
    | some .root => place
    | _ => place ++ [.parent]
  | c => place ++ [c]

theorem isDescending_ofText_iff {text : List Char} :
    (ofText text).isDescending = true ↔ text ≠ ['/'] ∧ text ≠ ['.', '.'] := by
  fun_cases ofText text with
  | case1 => simp [isDescending]
  | case2 => simp [isDescending]
  | case3 => simp [isDescending]
  | case4 name h₁ h₂ h₃ => simp_all [isDescending]

end Component

namespace Path

/-- The place that components lead to, no name being a link. -/
def lexical (components : List Component) : List Component := components.foldl Component.follow []

theorem lexical_append_current (front : List Component) :
    lexical (front ++ [.current]) = lexical front := by
  rw [lexical, List.foldl_append]
  rfl

theorem lexical_append_normal (front : List Component) (names : List String) :
    lexical (front ++ names.map .normal) = lexical front ++ names.map .normal := by
  rw [lexical, List.foldl_append, ← lexical]
  generalize lexical front = place
  induction names generalizing place with
  | nil => simp
  | cons name names ih =>
    rw [List.map_cons, List.foldl_cons, ih]
    simp [Component.follow]

end Path

end Remedy.Workspace

namespace Remedy.ManifestPath

open Files Workspace

theorem isAdmissible_iff {path : String} :
    isAdmissible path = true ↔
      Text.allBlank path = false ∧ path.toList.head? ≠ some '/' ∧
        ['.', '.'] ∉ Text.segments '/' path.toList := by
  rw [isAdmissible, Bool.and_eq_true, Bool.not_eq_true', Path.components_eq, List.all_map,
    List.all_eq_true]
  simp only [Function.comp_apply, Component.isDescending_ofText_iff]
  refine and_congr_right fun _ => ⟨fun h => ⟨fun hslash => ?_, fun hup => ?_⟩, fun h part hp => ?_⟩
  · have hlead : ['/'] ∈ Path.lead '/' '.' path.toList := by
      rw [Path.lead, if_pos hslash]
      exact List.mem_cons_self
    exact (h _ (List.mem_append_left _ hlead)).1 rfl
  · have hstep : ['.', '.'] ∈ Path.steps '/' '.' path.toList :=
      Path.mem_steps_iff.2 ⟨hup, by decide, by decide⟩
    exact (h _ (List.mem_append_right _ hstep)).2 rfl
  · obtain ⟨hslash, hup⟩ := h
    obtain hp | hp := List.mem_append.1 hp
    · rw [Path.lead, if_neg hslash] at hp
      split at hp
      · obtain rfl := List.mem_singleton.1 hp
        decide
      · cases hp
    · obtain ⟨hs, -, -⟩ := Path.mem_steps_iff.1 hp
      refine ⟨?_, ne_of_mem_of_not_mem hs hup⟩
      rintro rfl
      exact Text.notMem_of_mem_segments hs List.mem_cons_self

theorem ofString_eq_ok_iff : ofString path = .ok m ↔ m.text = path := by
  constructor
  · intro h
    rw [ofString] at h
    split at h
    · cases h
      rfl
    · cases h
  · rintro rfl
    exact dif_pos m.admissible

theorem exists_ofString_iff {path : String} :
    (∃ m, ofString path = .ok m) ↔ isAdmissible path = true := by
  constructor
  · rintro ⟨m, hm⟩
    rw [← ofString_eq_ok_iff.1 hm]
    exact m.admissible
  · intro h
    exact ⟨⟨path, h⟩, ofString_eq_ok_iff.2 rfl⟩

theorem ofJson?_eq_some_iff :
    ofJson? j = some m ↔ ∃ path, j = .string path ∧ ofString path = .ok m := by
  constructor
  · intro h
    cases j with
    | string path =>
      have hread : (ofString path).toOption = some m := h
      cases hof : ofString path with
      | ok found =>
        rw [hof] at hread
        exact ⟨path, rfl, hof.trans (congrArg _ (Option.some.inj hread))⟩
      | error =>
        rw [hof] at hread
        cases hread
    | _ => cases h
  · rintro ⟨path, rfl, hof⟩
    have hread : ofJson? (.string path) = (ofString path).toOption := rfl
    rw [hread, hof]
    rfl

/-- The names along a manifest path. -/
def names (m : ManifestPath) : List String := (Path.steps '/' '.' m.text.toList).map String.ofList

/-- The path starts, in so many words, at the current directory. -/
def StartsHere (m : ManifestPath) : Prop := (Text.segments '/' m.text.toList).head? = some ['.']

instance (m : ManifestPath) : Decidable m.StartsHere := inferInstanceAs (Decidable (_ = _))

theorem head?_ne_slash (m : ManifestPath) : m.text.toList.head? ≠ some '/' :=
  (isAdmissible_iff.1 m.admissible).2.1

theorem dotdot_notMem_names (m : ManifestPath) : ".." ∉ m.names := by
  rintro h
  obtain ⟨step, hstep, heq⟩ := List.mem_map.1 h
  obtain rfl : step = ['.', '.'] := String.ofList_inj.1 heq
  exact (isAdmissible_iff.1 m.admissible).2.2 (Path.mem_steps_iff.1 hstep).1

theorem lead_text (m : ManifestPath) :
    Path.lead '/' '.' m.text.toList = if m.StartsHere then [['.']] else [] := by
  rw [Path.lead, if_neg m.head?_ne_slash]
  rfl

theorem map_ofText_steps (m : ManifestPath) :
    (Path.steps '/' '.' m.text.toList).map Component.ofText = m.names.map .normal := by
  rw [names, List.map_map]
  refine List.map_congr_left fun step hstep => ?_
  obtain ⟨hs, -, hdot⟩ := Path.mem_steps_iff.1 hstep
  rw [Component.ofText]
  · rfl
  · rintro rfl
    exact Text.notMem_of_mem_segments hs List.mem_cons_self
  · exact hdot
  · rintro rfl
    exact (isAdmissible_iff.1 m.admissible).2.2 hs

theorem components_resolve (m : ManifestPath) (root : String) :
    Path.components (m.resolve root) =
      Path.components root ++ (if root = "" ∧ m.StartsHere then [.current] else []) ++
        m.names.map .normal := by
  rw [resolve, Path.components_eq, Path.toList_join, Path.parts_seenFrom m.head?_ne_slash,
    List.map_append, List.map_append, map_ofText_steps, ← Path.components_eq, lead_text]
  congr 2
  by_cases hroot : root = ""
  · by_cases hstart : m.StartsHere <;> simp [hroot, hstart, Component.ofText]
  · simp [hroot]

theorem lexical_resolve (m : ManifestPath) (root : String) :
    Path.lexical (Path.components (m.resolve root)) =
      Path.lexical (Path.components root) ++ m.names.map .normal := by
  rw [components_resolve, Path.lexical_append_normal]
  split
  · rw [Path.lexical_append_current]
  · rw [List.append_nil]

theorem parts_resolve_octets (m : ManifestPath) (root : List UInt8) :
    Path.parts FileSystem.slash Path.dot
        (Path.seenFrom FileSystem.slash root (Name.ofString m.text)) =
      Path.parts FileSystem.slash Path.dot root ++
          (if root = [] ∧ m.StartsHere then [Name.current] else []) ++
        m.names.map Name.ofString := by
  have hhead := mt Path.head?_ofString_iff.1 m.head?_ne_slash
  have hstart : Path.lead FileSystem.slash Path.dot (Name.ofString m.text) =
      if m.StartsHere then [Name.current] else [] := by
    rw [Path.lead_ofString, lead_text]
    split <;> rfl
  have hnames : (Path.steps '/' '.' m.text.toList).map Text.Utf8.encode =
      m.names.map Name.ofString := by
    simp [names, Name.ofString]
  rw [Path.parts_seenFrom hhead, Path.steps_ofString, hnames, hstart, ite_and]

theorem components_isPrefix_resolve (m : ManifestPath) (root : String) :
    Path.components root <+: Path.components (m.resolve root) := by
  rw [components_resolve, List.append_assoc]
  exact List.prefix_append _ _

/-- Just the texts that are not blank, do not start at the root and never go up are manifest paths,
read as they are or from JSON. Resolved from any root, such a path goes on from the root along its
own names. -/
theorem resolve_stays_inside :
    (∀ path, (∃ m, ofString path = .ok m) ↔
      Text.allBlank path = false ∧ path.toList.head? ≠ some '/' ∧
        ['.', '.'] ∉ Text.segments '/' path.toList) ∧
    (∀ path m, ofString path = .ok m ↔ m.text = path) ∧
    (∀ j m, ofJson? j = some m ↔ ∃ path, j = .string path ∧ ofString path = .ok m) ∧
    ∀ m : ManifestPath, ".." ∉ m.names ∧
      (∀ root : String,
        Path.components (m.resolve root) =
          Path.components root ++ (if root = "" ∧ m.StartsHere then [.current] else []) ++
            m.names.map .normal ∧
        Path.components root <+: Path.components (m.resolve root) ∧
        Path.lexical (Path.components (m.resolve root)) =
          Path.lexical (Path.components root) ++ m.names.map .normal ∧
        Name.ofString (m.resolve root) =
          Path.seenFrom FileSystem.slash (Name.ofString root) (Name.ofString m.text)) ∧
      ∀ root : List UInt8,
        Path.parts FileSystem.slash Path.dot
            (Path.seenFrom FileSystem.slash root (Name.ofString m.text)) =
          Path.parts FileSystem.slash Path.dot root ++
              (if root = [] ∧ m.StartsHere then [Name.current] else []) ++
            m.names.map Name.ofString := by
  refine ⟨fun path => exists_ofString_iff.trans isAdmissible_iff, fun path m => ofString_eq_ok_iff,
    fun j m => ofJson?_eq_some_iff, fun m => ⟨m.dotdot_notMem_names, fun root => ?_, ?_⟩⟩
  · exact ⟨m.components_resolve root, m.components_isPrefix_resolve root, m.lexical_resolve root,
      Path.ofString_join root m.text⟩
  · exact m.parts_resolve_octets

end Remedy.ManifestPath
