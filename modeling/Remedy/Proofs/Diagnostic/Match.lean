import Remedy.Diagnostic.Match

namespace Remedy.Diagnostic

variable {ds before after : List Diagnostic} {d : Diagnostic}

theorem isUnresolved_iff : d.isUnresolved = true ↔ d.code = .unresolved := by
  rw [isUnresolved, beq_iff_eq]

theorem find?_zipIdx_eq_none (h : ∀ d ∈ ds, d.code ≠ .unresolved) (n : Nat) :
    (ds.zipIdx n).find? (·.1.isUnresolved) = none := by
  rw [List.find?_eq_none]
  intro d hd hunresolved
  exact h d.1 (List.fst_mem_of_mem_zipIdx hd) (isUnresolved_iff.1 hunresolved)

theorem firstUnresolved?_eq_none (h : ∀ d ∈ ds, d.code ≠ .unresolved) :
    firstUnresolved? ds = none := by
  rw [firstUnresolved?, find?_zipIdx_eq_none h, Option.map_none]

theorem firstUnresolved?_append (hbefore : ∀ b ∈ before, b.code ≠ .unresolved)
    (hd : d.code = .unresolved) (after : List Diagnostic) :
    firstUnresolved? (before ++ d :: after) = some (before.length, d) := by
  have hfound : ((d :: after).zipIdx (0 + before.length)).find? (·.1.isUnresolved) =
      some (d, 0 + before.length) := List.find?_cons_of_pos (isUnresolved_iff.2 hd)
  rw [firstUnresolved?, List.zipIdx_append, List.find?_append, find?_zipIdx_eq_none hbefore,
    Option.none_or, hfound, Option.map_some, Nat.zero_add]

theorem exists_append_or_resolved (ds : List Diagnostic) :
    (∃ before d after, ds = before ++ d :: after ∧ (∀ b ∈ before, b.code ≠ .unresolved) ∧
      d.code = .unresolved) ∨ ∀ d ∈ ds, d.code ≠ .unresolved := by
  induction ds with
  | nil => exact .inr nofun
  | cons d ds ih =>
    by_cases hd : d.code = .unresolved
    · exact .inl ⟨[], d, ds, rfl, nofun, hd⟩
    · obtain ⟨before, d', after, rfl, hbefore, hd'⟩ | hall := ih
      · exact .inl ⟨d :: before, d', after, rfl, List.forall_mem_cons.2 ⟨hd, hbefore⟩, hd'⟩
      · exact .inr (List.forall_mem_cons.2 ⟨hd, hall⟩)

/-- The diagnostic at an index is unresolved, and none before it is. -/
structure IsFirstUnresolved (ds : List Diagnostic) (index : Nat) (d : Diagnostic) : Prop where
  getElem? : ds[index]? = some d
  unresolved : d.code = .unresolved
  resolved : ∀ j < index, ∀ b, ds[j]? = some b → b.code ≠ .unresolved

theorem isFirstUnresolved_append (hbefore : ∀ b ∈ before, b.code ≠ .unresolved)
    (hd : d.code = .unresolved) (after : List Diagnostic) :
    IsFirstUnresolved (before ++ d :: after) before.length d where
  getElem? := by rw [List.getElem?_append_right (Nat.le_refl _), Nat.sub_self]; rfl
  unresolved := hd
  resolved j hj b hb := by
    rw [List.getElem?_append_left hj] at hb
    exact hbefore b (List.mem_of_getElem? hb)

theorem IsFirstUnresolved.exists_append (h : IsFirstUnresolved ds index d) :
    ∃ before after, ds = before ++ d :: after ∧ before.length = index ∧
      ∀ b ∈ before, b.code ≠ .unresolved := by
  obtain ⟨hlt, rfl⟩ := List.getElem?_eq_some_iff.1 h.getElem?
  refine ⟨ds.take index, ds.drop (index + 1), ?_, List.length_take_of_le (Nat.le_of_lt hlt), ?_⟩
  · rw [← List.drop_eq_getElem_cons hlt, List.take_append_drop]
  · intro b hb
    obtain ⟨j, hj, hbj⟩ := List.mem_take_iff_getElem.1 hb
    exact h.resolved j (Nat.lt_of_lt_of_le hj (Nat.min_le_left ..)) b
      (List.getElem?_eq_some_iff.2 ⟨_, hbj⟩)

theorem firstUnresolved?_eq_some_iff :
    firstUnresolved? ds = some (index, d) ↔ IsFirstUnresolved ds index d := by
  constructor
  · intro h
    obtain ⟨before, d', after, rfl, hbefore, hd'⟩ | hall := exists_append_or_resolved ds
    · rw [firstUnresolved?_append hbefore hd'] at h
      cases h
      exact isFirstUnresolved_append hbefore hd' after
    · rw [firstUnresolved?_eq_none hall] at h
      cases h
  · intro h
    obtain ⟨before, after, rfl, rfl, hbefore⟩ := h.exists_append
    exact firstUnresolved?_append hbefore h.unresolved after

theorem firstUnresolved?_eq_none_iff :
    firstUnresolved? ds = none ↔ ∀ d ∈ ds, d.code ≠ .unresolved := by
  refine ⟨fun h => ?_, firstUnresolved?_eq_none⟩
  obtain ⟨before, d, after, rfl, hbefore, hd⟩ | hall := exists_append_or_resolved ds
  · rw [firstUnresolved?_append hbefore hd] at h
    cases h
  · exact hall

section Quotes

variable {message front symbol back : List Char}

theorem quote_notMem_takeWhile (cs : List Char) : '\'' ∉ cs.takeWhile (· ≠ '\'') := by
  intro h
  have hne := List.all_eq_true.1 List.all_takeWhile _ h
  simp at hne

theorem eq_quote_of_mem_head? (cs : List Char) :
    ∀ c ∈ (cs.dropWhile (· ≠ '\'')).head?, c = '\'' := by
  intro c hc
  have hhead := List.head?_dropWhile_not (· ≠ '\'') cs
  rw [hc] at hhead
  simpa using hhead

theorem quoted?_append (hfront : '\'' ∉ front) (hsymbol : '\'' ∉ symbol) (hne : symbol ≠ [])
    (hback : ∀ c ∈ back.head?, c = '\'') :
    quoted? (front ++ '\'' :: (symbol ++ back)) = some symbol := by
  have hkept {cs : List Char} (h : '\'' ∉ cs) : ∀ c ∈ cs, decide (c ≠ '\'') = true :=
    fun c hc => decide_eq_true fun heq => h (heq ▸ hc)
  have hdrop : (front ++ '\'' :: (symbol ++ back)).dropWhile (· ≠ '\'') =
      '\'' :: (symbol ++ back) := by
    rw [List.dropWhile_append_of_pos (hkept hfront)]
    rfl
  have hstop : back.takeWhile (· ≠ '\'') = [] := by
    cases back with
    | nil => rfl
    | cons c back =>
      rw [hback c rfl]
      rfl
  rw [quoted?, hdrop]
  dsimp only
  rw [List.takeWhile_append_of_pos (hkept hsymbol), hstop, List.append_nil]
  cases symbol with
  | nil => exact absurd rfl hne
  | cons => rfl

theorem exists_of_quoted? (h : quoted? message = some symbol) :
    ∃ front back, message = front ++ '\'' :: (symbol ++ back) ∧ '\'' ∉ front ∧
      '\'' ∉ symbol ∧ symbol ≠ [] ∧ ∀ c ∈ back.head?, c = '\'' := by
  have hsplit : message.takeWhile (· ≠ '\'') ++ message.dropWhile (· ≠ '\'') = message :=
    List.takeWhile_append_dropWhile
  have hquote := eq_quote_of_mem_head? message
  rw [quoted?] at h
  cases hdrop : message.dropWhile (· ≠ '\'') with
  | nil =>
    rw [hdrop] at h
    cases h
  | cons c rest =>
    rw [hdrop] at h hsplit hquote
    obtain rfl := hquote c rfl
    dsimp only at h
    split at h
    · cases h
    · next hne =>
      cases h
      refine ⟨_, rest.dropWhile (· ≠ '\''), ?_, quote_notMem_takeWhile message,
        quote_notMem_takeWhile rest, hne, eq_quote_of_mem_head? rest⟩
      rw [List.takeWhile_append_dropWhile, hsplit]

end Quotes

/-- The symbol stands in the message between the first two quotes, or after the only one. -/
def Quotes (message symbol : String) : Prop :=
  ∃ front back, message = front ++ "'" ++ symbol ++ back ∧ '\'' ∉ front.toList ∧
    '\'' ∉ symbol.toList ∧ symbol ≠ "" ∧ (back = "" ∨ back.toList.head? = some '\'')

theorem extractSymbol?_eq_some_iff {message symbol : String} :
    extractSymbol? message = some symbol ↔ Quotes message symbol := by
  rw [extractSymbol?, Option.map_eq_some_iff]
  constructor
  · rintro ⟨symbol, h, rfl⟩
    obtain ⟨front, back, hmessage, hfront, hsymbol, hne, hback⟩ := exists_of_quoted? h
    refine ⟨.ofList front, .ofList back, ?_, ?_, ?_, ?_, ?_⟩
    · rw [← String.toList_inj]
      simpa using hmessage
    · rwa [String.toList_ofList]
    · rwa [String.toList_ofList]
    · simpa using hne
    · cases back with
      | nil => exact .inl rfl
      | cons c back =>
        rw [hback c rfl, String.toList_ofList]
        exact .inr rfl
  · rintro ⟨front, back, rfl, hfront, hsymbol, hne, hback⟩
    have hstop : ∀ c ∈ back.toList.head?, c = '\'' := by
      obtain rfl | hback := hback
      · nofun
      · intro c hc
        rw [hback] at hc
        exact (Option.some.inj hc).symm
    have hcut := quoted?_append hfront hsymbol (mt String.toList_eq_nil_iff.1 hne) hstop
    exact ⟨symbol.toList, by simpa using hcut, String.ofList_toList⟩

end Remedy.Diagnostic
