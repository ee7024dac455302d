import Remedy.Text.Segments

namespace Remedy.Text

variable [DecidableEq α] {sep : α}

theorem segments_cons_sep (sep : α) (cs : List α) :
    segments sep (sep :: cs) = [] :: segments sep cs := if_pos rfl

theorem segments_cons_of_ne {c : α} (h : c ≠ sep) (hs : segments sep cs = part :: parts) :
    segments sep (c :: cs) = (c :: part) :: parts := by
  rw [segments, if_neg h, hs]

theorem segments_eq_splitOn (sep : α) (cs : List α) : segments sep cs = cs.splitOn sep := by
  induction cs with
  | nil => rfl
  | cons c cs ih =>
    rw [List.splitOn_cons_eq_if_modifyHead, ← ih]
    by_cases hc : c = sep
    · rw [hc, segments_cons_sep, if_pos (beq_self_eq_true sep)]
    · obtain ⟨part, parts, hs⟩ := List.exists_cons_of_ne_nil (segments_ne_nil sep cs)
      rw [segments_cons_of_ne hc hs, if_neg (mt eq_of_beq hc), hs, List.modifyHead_cons]

theorem segments_append_of_notMem (h : sep ∉ front) (hs : segments sep cs = part :: parts) :
    segments sep (front ++ cs) = (front ++ part) :: parts := by
  induction front with
  | nil => exact hs
  | cons c front ih =>
    obtain ⟨hc, hf⟩ := not_or.1 (mt List.mem_cons.2 h)
    exact segments_cons_of_ne (Ne.symm hc) (ih hf)

theorem segments_append_sep (front back : List α) :
    segments sep (front ++ sep :: back) = segments sep front ++ segments sep back := by
  simp only [segments_eq_splitOn, List.splitOn_append_cons_self]

theorem segments_intercalate (hne : parts ≠ []) (h : ∀ part ∈ parts, sep ∉ part) :
    segments sep ([sep].intercalate parts) = parts := by
  rw [segments_eq_splitOn, List.splitOn_intercalate sep h hne]

theorem notMem_of_mem_segments (h : part ∈ segments sep cs) : sep ∉ part := by
  induction cs generalizing part with
  | nil =>
    obtain rfl := List.mem_singleton.1 h
    exact List.not_mem_nil
  | cons c cs ih =>
    by_cases hc : c = sep
    · subst hc
      rw [segments_cons_sep] at h
      obtain rfl | h := List.mem_cons.1 h
      · exact List.not_mem_nil
      · exact ih h
    · obtain ⟨first, parts, hs⟩ := List.exists_cons_of_ne_nil (segments_ne_nil sep cs)
      rw [hs] at ih
      rw [segments_cons_of_ne hc hs] at h
      obtain rfl | h := List.mem_cons.1 h
      · exact not_or.2 ⟨Ne.symm hc, ih List.mem_cons_self⟩ ∘ List.mem_cons.1
      · exact ih (List.mem_cons_of_mem _ h)

theorem notMem_or_exists_append (sep : α) (cs : List α) :
    sep ∉ cs ∨ ∃ front back, cs = front ++ sep :: back ∧ sep ∉ back := by
  by_cases h : sep ∈ cs
  · obtain ⟨back, front, heq, hb⟩ := List.eq_append_cons_of_mem (List.mem_reverse.2 h)
    refine .inr ⟨front.reverse, back.reverse, ?_, mt List.mem_reverse.1 hb⟩
    simpa using congrArg List.reverse heq
  · exact .inl h

theorem takeWhile_reverse (h : sep ∉ back) (front : List α) :
    (front ++ sep :: back).reverse.takeWhile (· ≠ sep) = back.reverse := by
  have hne : ∀ c ∈ back.reverse, decide (c ≠ sep) = true := fun c hc =>
    decide_eq_true fun heq => h (heq ▸ List.mem_reverse.1 hc)
  rw [List.reverse_append, List.reverse_cons, List.append_assoc, List.takeWhile_append_of_pos hne]
  simp

theorem append_sep_inj (hb : sep ∉ back) (hb' : sep ∉ back')
    (h : front ++ sep :: back = front' ++ sep :: back') : front = front' ∧ back = back' := by
  have hback := congrArg (fun cs => cs.reverse.takeWhile (· ≠ sep)) h
  simp only [takeWhile_reverse hb, takeWhile_reverse hb'] at hback
  obtain rfl := List.reverse_inj.1 hback
  exact ⟨List.append_cancel_right h, rfl⟩

end Remedy.Text
