import Remedy.Files.FileSystem

namespace Remedy.Files

structure Name.IsProper (name : Name) : Prop where
  ne_nil : name ≠ []
  ne_current : name ≠ Name.current
  ne_parent : name ≠ Name.parent
  slash_notMem : FileSystem.slash ∉ name

instance : DecidablePred Name.IsProper := fun name =>
  decidable_of_iff (name ≠ [] ∧ name ≠ Name.current ∧ name ≠ Name.parent ∧ FileSystem.slash ∉ name)
    ⟨fun ⟨h₁, h₂, h₃, h₄⟩ => ⟨h₁, h₂, h₃, h₄⟩, fun ⟨h₁, h₂, h₃, h₄⟩ => ⟨h₁, h₂, h₃, h₄⟩⟩

namespace Node

variable {entries : List (Name × Node)} {e : Name × Node}

/-- In every directory of the tree the names are distinct and proper. -/
def WellNamed (n : Node) : Prop :=
  ∀ location inode entries, n.get? location = some (.directory inode entries) →
    (entries.map (·.1)).Nodup ∧ ∀ e ∈ entries, e.1.IsProper

theorem get?_append (n : Node) (l l' : List Name) :
    n.get? (l ++ l') = (n.get? l).bind (·.get? l') := by
  induction l generalizing n with
  | nil => rfl
  | cons name l ih =>
    rw [List.cons_append, get?, get?, Option.bind_assoc]
    congr 1
    funext m
    exact ih m

theorem WellNamed.of_get? {n m : Node} (h : n.WellNamed) (hm : n.get? location = some m) :
    m.WellNamed := by
  intro l inode entries hl
  refine h (location ++ l) inode entries ?_
  rw [get?_append, hm, Option.bind_some, hl]

theorem lookup_eq_some_iff_mem {entries : List (Name × Node)} (h : (entries.map (·.1)).Nodup) :
    entries.lookup name = some n ↔ (name, n) ∈ entries := by
  induction entries with
  | nil => simp
  | cons e entries ih =>
    obtain ⟨hne, hnd⟩ := List.nodup_cons.1 h
    rw [List.lookup_cons, List.mem_cons]
    split
    · next heq =>
      have heq := eq_of_beq heq
      constructor
      · intro hn
        exact .inl (Prod.ext heq (Option.some.inj hn).symm)
      · rintro (rfl | hm)
        · rfl
        · exact absurd (List.mem_map_of_mem (f := (·.1)) hm) (heq ▸ hne)
    · next hneq =>
      rw [ih hnd]
      refine ⟨.inr, fun hm => hm.resolve_left ?_⟩
      rintro rfl
      simp at hneq

theorem WellNamed.get?_cons (h : (directory inode entries).WellNamed) :
    (directory inode entries).get? (name :: l) = some m ↔
      ∃ n, (name, n) ∈ entries ∧ n.get? l = some m := by
  rw [get?, Option.bind_eq_some_iff]
  refine exists_congr fun n => and_congr_left fun _ => ?_
  exact lookup_eq_some_iff_mem (h [] inode entries rfl).1

theorem WellNamed.of_mem (h : (directory inode entries).WellNamed) (he : e ∈ entries) :
    e.2.WellNamed := by
  have he' : (directory inode entries).get? [e.1] = some e.2 := h.get?_cons.2 ⟨e.2, he, rfl⟩
  exact h.of_get? he'

theorem wellNamed_of_entries_eq_nil {n : Node} (h : n.entries = []) : n.WellNamed := by
  intro l inode entries hl
  cases l with
  | nil =>
    cases hl
    cases h
    exact ⟨List.nodup_nil, nofun⟩
  | cons name l =>
    rw [get?, child?, h] at hl
    cases hl

@[simp]
theorem wellNamed_file (inode : Nat) : (file inode).WellNamed := wellNamed_of_entries_eq_nil rfl

@[simp]
theorem wellNamed_link (target : List UInt8) : (link target).WellNamed :=
  wellNamed_of_entries_eq_nil rfl

theorem wellNamed_directory_iff : (directory inode entries).WellNamed ↔
    (entries.map (·.1)).Nodup ∧ ∀ e ∈ entries, e.1.IsProper ∧ e.2.WellNamed := by
  constructor
  · intro h
    obtain ⟨hnodup, hproper⟩ := h [] inode entries rfl
    exact ⟨hnodup, fun e he => ⟨hproper e he, h.of_mem he⟩⟩
  · rintro ⟨hnodup, hentries⟩ l i es hl
    cases l with
    | nil =>
      cases hl
      exact ⟨hnodup, fun e he => (hentries e he).1⟩
    | cons name l =>
      rw [get?, Option.bind_eq_some_iff] at hl
      obtain ⟨n, hn, hl⟩ := hl
      exact (hentries _ ((lookup_eq_some_iff_mem hnodup).1 hn)).2 l i es hl

@[elab_as_elim]
theorem entryInduction {motive : Node → Prop} (file : ∀ inode, motive (.file inode))
    (directory : ∀ inode entries, (∀ e ∈ entries, motive e.2) → motive (.directory inode entries))
    (link : ∀ target, motive (.link target)) (device : ∀ d, motive (.device d))
    (fifo : ∀ inode, motive (.fifo inode)) (n : Node) : motive n :=
  files.induct motive (fun entries => ∀ e ∈ entries, motive e.2) file directory link device fifo
    (by simp) (fun _ _ _ hn hr => List.forall_mem_cons.2 ⟨hn, hr⟩) n

theorem entryFiles_eq_map (entries : List (Name × Node)) :
    entryFiles entries = entries.map fun e => (e.1, e.2.files.map (e.1 :: ·)) := by
  induction entries with
  | nil => rfl
  | cons e entries ih => rw [entryFiles, ih, List.map_cons]

theorem mem_files_directory : l ∈ (directory inode entries).files ↔
    ∃ e ∈ entries, ∃ l' ∈ e.2.files, l = e.1 :: l' := by
  rw [files, List.mem_flatMap]
  simp only [List.mem_mergeSort, entryFiles_eq_map, List.mem_map]
  constructor
  · rintro ⟨_, ⟨e, he, rfl⟩, hl⟩
    obtain ⟨l', hl', rfl⟩ := List.mem_map.1 hl
    exact ⟨e, he, l', hl', rfl⟩
  · rintro ⟨e, he, l', hl', rfl⟩
    exact ⟨_, ⟨e, he, rfl⟩, List.mem_map_of_mem hl'⟩

theorem mem_files_iff {n : Node} (h : n.WellNamed) {l : List Name} :
    l ∈ n.files ↔ ∃ inode, n.get? l = some (.file inode) := by
  induction n using entryInduction generalizing l with
  | file inode =>
    cases l with
    | nil => simp [files, get?]
    | cons name l => simp [files, get?, child?, Node.entries]
  | directory inode entries ih =>
    rw [mem_files_directory]
    cases l with
    | nil => simp [get?]
    | cons name l =>
      simp only [h.get?_cons]
      constructor
      · rintro ⟨e, he, l', hl', heq⟩
        obtain ⟨rfl, rfl⟩ := List.cons.inj heq
        obtain ⟨i, hi⟩ := (ih e he (h.of_mem he)).1 hl'
        exact ⟨i, e.2, he, hi⟩
      · rintro ⟨i, n, hn, hi⟩
        exact ⟨(name, n), hn, l, (ih _ hn (h.of_mem hn)).2 ⟨i, hi⟩, rfl⟩
  | link | device | fifo =>
    cases l with
    | nil => simp [files, get?]
    | cons name l => simp [files, get?, child?, Node.entries]

theorem pairwise_lt_mergeSort (h : (entries.map (·.1)).Nodup) :
    ((entryFiles entries).mergeSort fun a b => decide (a.1 ≤ b.1)).Pairwise (·.1 < ·.1) := by
  have htrans (a b c : Name × List (List Name)) (hab : decide (a.1 ≤ b.1) = true)
      (hbc : decide (b.1 ≤ c.1) = true) : decide (a.1 ≤ c.1) = true :=
    decide_eq_true (List.le_trans (of_decide_eq_true hab) (of_decide_eq_true hbc))
  have htotal (a b : Name × List (List Name)) :
      (decide (a.1 ≤ b.1) || decide (b.1 ≤ a.1)) = true := by
    simpa using List.le_total a.1 b.1
  have hsorted := List.pairwise_mergeSort htrans htotal (entryFiles entries)
  have hperm := List.mergeSort_perm (entryFiles entries) fun a b => decide (a.1 ≤ b.1)
  have hnames : (entryFiles entries).map (·.1) = entries.map (·.1) := by
    simp [entryFiles_eq_map]
  have hnodup := (hperm.map (·.1)).nodup_iff.2 (hnames ▸ h)
  refine hsorted.imp₂ (fun a b hab hne => ?_) (List.pairwise_map.1 hnodup)
  refine List.not_le.1 fun hba => hne ?_
  exact List.le_antisymm (of_decide_eq_true hab) hba

theorem pairwise_lt_files {n : Node} (h : n.WellNamed) : n.files.Pairwise (· < ·) := by
  induction n using entryInduction with
  | file | link | device | fifo => simp [files]
  | directory inode entries ih =>
    rw [files, List.pairwise_flatMap]
    constructor
    · intro ef hef
      rw [List.mem_mergeSort, entryFiles_eq_map] at hef
      obtain ⟨e, he, rfl⟩ := List.mem_map.1 hef
      refine List.pairwise_map.2 ((ih e he (h.of_mem he)).imp fun hlt => ?_)
      exact List.cons_lt_cons_iff.2 (.inr ⟨rfl, hlt⟩)
    · refine (pairwise_lt_mergeSort (h [] inode entries rfl).1).imp_of_mem ?_
      intro a b ha hb hlt
      rw [List.mem_mergeSort, entryFiles_eq_map] at ha hb
      obtain ⟨e, -, rfl⟩ := List.mem_map.1 ha
      obtain ⟨e', -, rfl⟩ := List.mem_map.1 hb
      intro l hl l' hl'
      obtain ⟨t, -, rfl⟩ := List.mem_map.1 hl
      obtain ⟨t', -, rfl⟩ := List.mem_map.1 hl'
      exact List.cons_lt_cons_iff.2 (.inl hlt)

end Node

end Remedy.Files
