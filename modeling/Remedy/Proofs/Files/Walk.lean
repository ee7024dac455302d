import Remedy.Proofs.Files.Listing
import Remedy.Proofs.Text.Segments

namespace Remedy.Files.FileSystem

variable {fs : FileSystem} {n m : Node} {cwd here location a b : List Name}

theorem find_eq_ok_iff {p : List UInt8} :
    fs.find cwd p = .ok n ↔
      ∃ location, fs.locate cwd p true = .ok location ∧ fs.root.get? location = some n := by
  rw [find, lookup]
  cases fs.locate cwd p true with
  | error e => exact ⟨nofun, nofun⟩
  | ok location =>
    simp only [bind, Except.bind, Except.ok.injEq, exists_eq_left']
    cases fs.root.get? location with
    | none => exact ⟨nofun, nofun⟩
    | some m => simp

theorem walk_of_none (h : fs.root.get? here = none) (hb : b ≠ []) :
    fs.walk follow links here b = .error .missing := by
  cases b with
  | nil => exact absurd rfl hb
  | cons segment rest => rw [walk, h]

theorem walk_append (fs : FileSystem) (links : Nat) (here a : List Name) :
    ∃ r : Except Errno (Nat × List Name), fs.walk true links here a = r.map (·.2) ∧
      ∀ b, b ≠ [] → fs.walk true links here (a ++ b) = r.bind fun s => fs.walk true s.1 s.2 b := by
  fun_induction fs.walk true links here a with
  | case1 links here => exact ⟨.ok (links, here), rfl, fun _ _ => rfl⟩
  | case2 links here segment rest hn =>
    exact ⟨.error .missing, rfl, fun b _ => walk_of_none hn (List.cons_ne_nil _ _)⟩
  | case3 links here segment rest inode entries hn hs ih =>
    obtain ⟨r, hr, happend⟩ := ih
    refine ⟨r, hr, fun b hb => ?_⟩
    rw [List.cons_append, walk, hn, ← happend b hb]
    simp [hs]
  | case4 links here rest inode entries hn hs ih =>
    obtain ⟨r, hr, happend⟩ := ih
    refine ⟨r, hr, fun b hb => ?_⟩
    rw [List.cons_append, walk, hn, ← happend b hb]
    simp [hs]
  | case5 links here segment rest inode entries hn hs hp hlen =>
    refine ⟨.error .nameTooLong, rfl, fun b _ => ?_⟩
    rw [List.cons_append, walk, hn]
    simp [hs, hp, hlen, Except.bind]
  | case6 links here segment inode entries hn hs hp hlen hlookup =>
    refine ⟨.ok (links, here ++ [segment]), rfl, fun b hb => ?_⟩
    have hnone : fs.root.get? (here ++ [segment]) = none := by
      rw [Node.get?_append, hn, Option.bind_some, Node.get?, Node.child?, Node.entries, hlookup,
        Option.bind_none]
    rw [Except.bind, walk_of_none hnone hb, List.singleton_append, walk, hn]
    simp [hs, hp, hlen, hlookup, hb]
  | case7 links here segment rest inode entries hn hs hp hlen hlookup hrest =>
    refine ⟨.error .missing, rfl, fun b _ => ?_⟩
    rw [List.cons_append, walk, hn]
    simp [hs, hp, hlen, hlookup, hrest, Except.bind]
  | case8 links here segment rest inode entries hn hs hp hlen target hlookup hf => cases hf.2
  | case9 here segment rest inode entries hn hs hp hlen target hlookup hf =>
    refine ⟨.error .tooManyLinks, rfl, fun b _ => ?_⟩
    rw [List.cons_append, walk, hn]
    simp [hs, hp, hlen, hlookup, Except.bind]
  | case10 here segment rest inode entries hn hs hp hlen target hlookup hf links start ih =>
    obtain ⟨r, hr, happend⟩ := ih
    refine ⟨r, hr, fun b hb => ?_⟩
    rw [List.cons_append, walk, hn, ← happend b hb, List.append_assoc]
    simp [hs, hp, hlen, hlookup, start]
  | case11 links here segment rest inode entries hn hs hp hlen node hnode hlookup ih =>
    obtain ⟨r, hr, happend⟩ := ih
    refine ⟨r, hr, fun b hb => ?_⟩
    rw [List.cons_append, walk, hn, ← happend b hb]
    simp [hs, hp, hlen, hlookup]
  | case12 links here segment rest node hnode hn =>
    refine ⟨.error .notDirectory, rfl, fun b _ => ?_⟩
    rw [List.cons_append, walk, hn]
    simp [Except.bind]

theorem walk_singleton_nil (h : fs.walk follow links here [[]] = .ok location) :
    location = here := by
  rw [walk] at h
  cases hn : fs.root.get? here with
  | none => simp [hn] at h
  | some n =>
    cases n with
    | directory inode entries =>
      simp only [hn, true_or, if_true] at h
      rw [walk] at h
      exact (Except.ok.inj h).symm
    | file | link | device | fifo => simp [hn] at h

/-- A walk along a longer path goes on from where the shorter one leads, whether or not that ends in
a slash. -/
theorem exists_walk_append (h : fs.walk true links here (a ++ c) = .ok location)
    (hc : c = [] ∨ c = [[]]) :
    ∃ links', ∀ b, b ≠ [] →
      fs.walk true links here (a ++ b) = fs.walk true links' location b := by
  obtain ⟨r, hr, happend⟩ := walk_append fs links here a
  cases r with
  | error e =>
    obtain rfl | rfl := hc
    · rw [List.append_nil, hr] at h
      cases h
    · rw [happend _ (List.cons_ne_nil _ _)] at h
      cases h
  | ok s =>
    have hlocation : location = s.2 := by
      obtain rfl | rfl := hc
      · rw [List.append_nil, hr] at h
        exact (Except.ok.inj h).symm
      · rw [happend _ (List.cons_ne_nil _ _)] at h
        exact walk_singleton_nil h
    exact ⟨s.1, hlocation ▸ happend⟩

theorem exists_locate_append {p tail : List UInt8}
    (h : fs.locate cwd (p ++ tail) true = .ok location) (htail : tail = [] ∨ tail = [slash]) :
    ∃ links, ∀ q, fs.locate cwd (p ++ slash :: q) true =
      fs.walk true links location (Text.segments slash q) := by
  have hne : p ++ tail ≠ [] := fun heq => by
    rw [locate, if_pos heq] at h
    cases h
  have hhead (q : List UInt8) : (p ++ slash :: q).head? = (p ++ tail).head? := by
    cases p with
    | nil =>
      obtain rfl | rfl := htail
      · exact absurd rfl hne
      · rfl
    | cons b p => rfl
  obtain ⟨c, hc, hsegments⟩ : ∃ c, (c = [] ∨ c = [[]]) ∧
      Text.segments slash (p ++ tail) = Text.segments slash p ++ c := by
    obtain rfl | rfl := htail
    · exact ⟨[], .inl rfl, by simp⟩
    · exact ⟨[[]], .inr rfl, Text.segments_append_sep p []⟩
  rw [locate, if_neg hne, hsegments] at h
  obtain ⟨links, hwalk⟩ := exists_walk_append h hc
  refine ⟨links, fun q => ?_⟩
  rw [← hwalk _ (Text.segments_ne_nil slash q), locate, if_neg (by simp), hhead,
    Text.segments_append_sep]

/-- From a node on, the walk along names goes straight down to what is not a link. -/
theorem walk_of_get? (hnamed : n.WellNamed) (hhere : fs.root.get? here = some n)
    (hm : n.get? l = some m) (hlink : m.isLink = false)
    (hlength : ∀ name ∈ l, name.length ≤ maxName) :
    fs.walk follow links here l = .ok (here ++ l) := by
  induction l generalizing here n with
  | nil => rw [walk, List.append_nil]
  | cons name l ih =>
    obtain ⟨hname, hl⟩ := List.forall_mem_cons.1 hlength
    cases n with
    | directory inode entries =>
      obtain ⟨k, hk, hm⟩ := hnamed.get?_cons.1 hm
      have hproper := (hnamed [] inode entries rfl).2 _ hk
      have hlookup := (Node.lookup_eq_some_iff_mem (hnamed [] inode entries rfl).1).2 hk
      have hbelow : fs.root.get? (here ++ [name]) = some k := by
        rw [Node.get?_append, hhere, Option.bind_some]
        exact hnamed.get?_cons.2 ⟨k, hk, rfl⟩
      have hwalk := ih (hnamed.of_mem hk) hbelow hm hl
      rw [List.append_assoc, List.singleton_append] at hwalk
      rw [walk, hhere]
      dsimp only
      rw [if_neg (not_or.2 ⟨hproper.ne_nil, hproper.ne_current⟩), if_neg hproper.ne_parent,
        if_neg (Nat.not_lt.2 hname), hlookup]
      cases k with
      | link target =>
        -- Nothing lies below a link, so this one is what the names lead to.
        cases l with
        | nil =>
          cases hm
          cases hlink
        | cons name l => cases hm
      | file | directory | device | fifo => exact hwalk
    | file | link | device | fifo => cases hm

end Remedy.Files.FileSystem
