import Mathlib.Data.Option.Basic
import Remedy.Proofs.Json.Grammar

namespace Remedy.Json.Reader

theorem skipSpace_cons (hc : isSpace c = false) (cs : Input) : skipSpace (c :: cs) = c :: cs :=
  List.dropWhile_cons_of_neg (by simp [hc])

theorem skipSpace_append (h : IsBlank space) (hc : isSpace c = false) (cs : Input) :
    skipSpace (space ++ c :: cs) = c :: cs := by
  rw [skipSpace, List.dropWhile_append_of_pos h, ← skipSpace, skipSpace_cons hc]

theorem guard_bind {p : Prop} [Decidable p] (h : p) (k : Unit → Option α) :
    (guard p : Option Unit) >>= k = k () := by
  rw [guard, if_pos h]
  rfl

theorem digits_append (h : cs.map digit? = ds.map some)
    (hrest : ∀ c ∈ rest.head?, digit? c = none) : digits (cs ++ rest) = (ds, rest) := by
  induction cs generalizing ds with
  | nil =>
    obtain rfl : ds = [] := by simpa using h.symm
    cases rest with
    | nil => rfl
    | cons c rest => rw [List.nil_append, digits, hrest c rfl]
  | cons c cs ih =>
    cases ds with
    | nil => cases h
    | cons d ds =>
      obtain ⟨hc, hcs⟩ := List.cons.inj h
      rw [List.cons_append, digits, hc, ih hcs]

theorem digits?_append (h : AreDigits cs ds) (hrest : ∀ c ∈ rest.head?, digit? c = none) :
    digits? (cs ++ rest) = some (ds, rest) := by
  rw [digits?, digits_append h.2 hrest]
  cases ds with
  | nil => exact absurd rfl h.1
  | cons d ds => rfl

theorem fraction?_append (h : IsFraction cs fraction)
    (hrest : ∀ c ∈ rest.head?, digit? c = none ∧ c ≠ some '.') :
    fraction? (cs ++ rest) = some (fraction, rest) := by
  cases h with
  | absent =>
    cases rest with
    | nil => rfl
    | cons c rest =>
      rw [List.nil_append, fraction?]
      rintro _ ⟨⟩
      exact (hrest _ rfl).2 rfl
  | present hds =>
    rw [List.cons_append, fraction?, digits?_append hds fun c hc => (hrest c hc).1]
    rfl

theorem signedDigits?_append (h : AreDigits cs ds) (hrest : ∀ c ∈ rest.head?, digit? c = none) :
    signedDigits? (cs ++ rest) = some ((false, ds), rest) := by
  obtain ⟨c, cs', rfl, d, hc⟩ := h.exists_cons
  rw [signedDigits?, digits?_append h hrest]
  · rfl
  · rintro _ ⟨⟩
    cases hc
  · rintro _ ⟨⟩
    cases hc

theorem exponent?_append (h : IsExponent cs exponent)
    (hrest : ∀ c ∈ rest.head?, digit? c = none ∧ c ≠ some 'e' ∧ c ≠ some 'E') :
    exponent? (cs ++ rest) = some (exponent, rest) := by
  have hdigit : ∀ c ∈ rest.head?, digit? c = none := fun c hc => (hrest c hc).1
  cases h with
  | absent =>
    cases rest with
    | nil => rfl
    | cons c rest =>
      rw [List.nil_append, exponent?]
      · rintro _ ⟨⟩
        exact (hrest _ rfl).2.1 rfl
      · rintro _ ⟨⟩
        exact (hrest _ rfl).2.2 rfl
  | plain he hds =>
    obtain rfl | rfl := he
    all_goals
      rw [List.cons_append, exponent?, signedDigits?_append hds hdigit]
      rfl
  | plus he hds | minus he hds =>
    obtain rfl | rfl := he
    all_goals
      rw [List.cons_append, List.cons_append, exponent?, signedDigits?, digits?_append hds hdigit]
      rfl

theorem number?_append (h : IsNumber cs l) (hrest : IsBoundary rest) :
    number? (cs ++ rest) = some (l, rest) := by
  obtain ⟨negative, hw, hzero, hf, he⟩ := h
  next w whole f fraction e exponent =>
  have hletter : ∀ c ∈ rest.head?, digit? c = none ∧ c ≠ some 'e' ∧ c ≠ some 'E' := by
    intro c hc
    obtain ⟨hdigit, -, hletter⟩ := hrest.stops hc
    exact ⟨hdigit, hletter⟩
  have hpoint : ∀ c ∈ (e ++ rest).head?, digit? c = none ∧ c ≠ some '.' := by
    intro c hc
    obtain heq | heq | heq := he.head?_append rest
    · obtain ⟨hdigit, hpoint, -⟩ := hrest.stops (heq ▸ hc)
      exact ⟨hdigit, hpoint⟩
    all_goals
      rw [heq] at hc
      cases hc
      decide
  have hdigit : ∀ c ∈ (f ++ (e ++ rest)).head?, digit? c = none := by
    intro c hc
    obtain heq | heq := hf.head?_append (e ++ rest)
    · exact (hpoint c (heq ▸ hc)).1
    · rw [heq] at hc
      cases hc
      decide
  -- What follows the sign is read alike with and without one.
  have hread (negative : Bool) : (digits? (w ++ (f ++ (e ++ rest))) >>= fun x =>
      guard (x.1.length = 1 ∨ x.1.head? ≠ some 0) >>= fun _ => fraction? x.2 >>= fun y =>
        exponent? y.2 >>= fun z => some (NumberLiteral.mk negative x.1 y.1 z.1, z.2)) =
          some (⟨negative, whole, fraction, exponent⟩, rest) := by
    rw [digits?_append hw hdigit, Option.bind_eq_bind, Option.bind_some, guard_bind hzero,
      fraction?_append hf hpoint, Option.bind_eq_bind, Option.bind_some,
      exponent?_append he hletter, Option.bind_eq_bind, Option.bind_some]
  cases negative with
  | true =>
    simp only [signText, if_true, List.cons_append, List.nil_append, List.append_assoc, number?]
    exact hread true
  | false =>
    obtain ⟨c, cs', rfl, d, hc⟩ := hw.exists_cons
    simp only [signText, Bool.false_eq_true, if_false, List.nil_append, List.append_assoc, number?]
    split
    · next heq =>
      obtain ⟨rfl, -⟩ := List.cons.inj heq
      cases hc
    · exact hread false

theorem pieces?_append (h : ArePieces cs ps) (rest : Input) :
    pieces? (cs ++ some '"' :: rest) = some (ps, rest) := by
  induction h with
  | nil => rfl
  | cons hp h ih =>
    cases hp with
    | @char c hquote hbackslash hc =>
      rw [List.append_assoc, List.singleton_append, pieces?]
      · rw [guard_bind hc, ih]
        rfl
      · exact hquote
      · exact fun _ _ _ _ _ heq => absurd heq hbackslash
      · exact fun _ _ heq => absurd heq hbackslash
      · exact fun heq => absurd heq hbackslash
    | @escape e c he =>
      rw [List.append_assoc, List.cons_append, List.singleton_append, pieces?]
      · simp only [he, ih, Option.bind_eq_bind, Option.bind_some]
        rfl
      · rintro _ _ _ _ _ rfl
        cases he
    | unit ha hb hc hd =>
      simp only [List.cons_append, List.nil_append]
      rw [pieces?]
      simp only [ha, hb, hc, hd, ih, Option.bind_eq_bind, Option.bind_some]
      rfl

theorem string?_append (h : ArePieces cs ps) (rest : Input) :
    string? (cs ++ some '"' :: rest) = some ((spell? ps).map String.ofList, rest) := by
  rw [string?, pieces?_append h]
  rfl

/-- Whether a value is read wherever it stands, with fuel for its length. -/
def Reads (depth : Nat) (cs : Input) (j : Json) : Prop :=
  ∀ fuel space rest, 2 * cs.length ≤ fuel → IsBlank space → IsBoundary rest →
    value? fuel depth (space ++ (cs ++ rest)) = some (j, rest)

theorem value?_blank (h : IsBlank space) (fuel depth : Nat) (cs : Input) :
    value? fuel depth (space ++ cs) = value? fuel depth cs := by
  cases fuel with
  | zero => rfl
  | succ fuel => rw [value?, value?, skipSpace, skipSpace, List.dropWhile_append_of_pos h]

theorem reads_of_succ (hne : cs ≠ [])
    (h : ∀ fuel rest, 2 * cs.length ≤ fuel + 1 → IsBoundary rest →
      value? (fuel + 1) depth (cs ++ rest) = some (j, rest)) : Reads depth cs j := by
  intro fuel space rest hfuel hblank hrest
  have hpos := List.length_pos_iff.2 hne
  cases fuel with
  | zero => omega
  | succ fuel => rw [value?_blank hblank, h fuel rest hfuel hrest]

theorem reads_enclosed (h : ∀ fuel rest, 2 * body.length + 4 ≤ fuel + 1 →
    value? (fuel + 1) depth (first :: (body ++ last :: rest)) = some (j, rest)) :
    Reads depth (first :: (body ++ [last])) j := by
  refine reads_of_succ (List.cons_ne_nil _ _) fun fuel rest hfuel _ => ?_
  rw [List.length_cons, List.length_append, List.length_singleton] at hfuel
  rw [List.cons_append, List.append_assoc, List.singleton_append, h fuel rest (by omega)]

theorem reads_keyword (h : IsKeyword cs j) (depth : Nat) : Reads depth cs j := by
  refine reads_of_succ (by cases h <;> nofun) fun fuel rest _ _ => ?_
  have hskip : skipSpace (cs ++ rest) = cs ++ rest := by
    cases h <;> exact skipSpace_cons (by decide) _
  rw [value?, hskip]
  cases h <;> rfl

theorem reads_number (h : IsNumber cs l) (depth : Nat) :
    Reads depth cs (l.number?.elim .unreadable .number) := by
  obtain ⟨c, cs', hcs, hc⟩ := h.exists_cons
  have hspace : isSpace c = false := by
    obtain rfl | ⟨d, hd⟩ := hc
    · decide
    · exact isSpace_eq_false_of_digit? hd
  refine reads_of_succ (hcs ▸ List.cons_ne_nil _ _) fun fuel rest _ hrest => ?_
  have hskip : skipSpace (cs ++ rest) = cs ++ rest := hcs ▸ skipSpace_cons hspace _
  rw [value?, hskip]
  split
  case h_7 =>
    rw [number?_append h hrest]
    rfl
  -- None of the other beginnings is a sign or a digit.
  all_goals
    next heq =>
      rw [hcs] at heq
      obtain ⟨rfl, -⟩ := List.cons.inj heq
      obtain heq | ⟨d, hd⟩ := hc
      · cases heq
      · cases hd

theorem reads_string (h : ArePieces cs ps) (depth : Nat) :
    Reads depth (some '"' :: (cs ++ [some '"']))
      (((spell? ps).map String.ofList).elim .unreadable .string) := by
  refine reads_enclosed fun fuel rest _ => ?_
  rw [value?, skipSpace_cons (by decide)]
  simp only [string?_append h, Option.map_some]

theorem isBoundary_cons (h : c = some ',' ∨ c = some ']' ∨ c = some '}') (cs : Input) :
    IsBoundary (c :: cs) := by
  intro c' hc
  cases hc
  exact .inr h

theorem value?_slot {s : Slot} (h : Reads depth s.core s.value) (hspaced : s.IsSpaced)
    (hfuel : 2 * s.text.length ≤ fuel) (hcs : IsBoundary cs) :
    value? fuel depth (s.text ++ cs) = some (s.value, s.after ++ cs) := by
  have hlength := s.length_core_le
  have hread := h fuel s.before (s.after ++ cs) (by omega) hspaced.1 (hspaced.2.isBoundary hcs)
  rw [Slot.text, List.append_assoc, List.append_assoc, hread]

theorem items?_last {s : Slot} (h : Reads depth s.core s.value) (hspaced : s.IsSpaced)
    (hfuel : 2 * s.text.length ≤ fuel) (rest : Input) :
    items? (fuel + 1) depth (s.text ++ some ']' :: rest) = some ([s.value], rest) := by
  have hvalue := value?_slot h hspaced hfuel (isBoundary_cons (.inr (.inl rfl)) rest)
  have hskip := skipSpace_append hspaced.2 (by decide : isSpace (some ']') = false) rest
  simp only [items?, hvalue, hskip, Option.bind_eq_bind, Option.bind_some]
  rfl

theorem items?_next {s : Slot} (h : Reads depth s.core s.value) (hspaced : s.IsSpaced)
    (hfuel : 2 * s.text.length ≤ fuel) (hcs : items? fuel depth cs = some (vs, rest)) :
    items? (fuel + 1) depth (s.text ++ some ',' :: cs) = some (s.value :: vs, rest) := by
  have hvalue := value?_slot h hspaced hfuel (isBoundary_cons (.inl rfl) cs)
  have hskip := skipSpace_append hspaced.2 (by decide : isSpace (some ',') = false) cs
  simp only [items?, hvalue, hskip, hcs, Option.bind_eq_bind, Option.bind_some]
  rfl

theorem items?_append {slots : List Slot} (hne : slots ≠ []) (hspaced : ∀ s ∈ slots, s.IsSpaced)
    (h : ∀ s ∈ slots, Reads depth s.core s.value)
    (hfuel : 2 * (commaSeparated (slots.map Slot.text)).length + 1 ≤ fuel) (rest : Input) :
    items? fuel depth (commaSeparated (slots.map Slot.text) ++ some ']' :: rest) =
      some (slots.map Slot.value, rest) := by
  induction slots generalizing fuel with
  | nil => exact absurd rfl hne
  | cons s slots ih =>
    obtain ⟨hs, hslots⟩ := List.forall_mem_cons.1 hspaced
    obtain ⟨hread, hreads⟩ := List.forall_mem_cons.1 h
    cases fuel with
    | zero => cases hfuel
    | succ fuel =>
      cases slots with
      | nil =>
        rw [List.map_singleton, commaSeparated_singleton] at hfuel ⊢
        exact items?_last hread hs (by omega) rest
      | cons s' slots =>
        rw [List.map_cons, List.map_cons, commaSeparated_cons_cons, ← List.map_cons] at hfuel ⊢
        rw [List.length_append, List.length_cons] at hfuel
        rw [List.append_assoc, List.cons_append]
        exact items?_next hread hs (by omega)
          (ih (List.cons_ne_nil _ _) hslots hreads (by omega))

theorem members?_last {e : Entry} (h : Reads depth e.slot.core e.slot.value) (he : e.IsSpelled)
    (hfuel : 2 * e.text.length ≤ fuel) (rest : Input) :
    members? (fuel + 1) depth (e.text ++ some '}' :: rest) = some ([e.member], rest) := by
  have hlength := e.length_slot_le
  have hquote := skipSpace_append he.before (by decide : isSpace (some '"') = false)
  have hcolon := skipSpace_append he.after (by decide : isSpace (some ':') = false)
  have hvalue := value?_slot h he.slot (by omega : 2 * e.slot.text.length ≤ fuel)
    (isBoundary_cons (.inr (.inr rfl)) rest)
  have hskip := skipSpace_append he.slot.2 (by decide : isSpace (some '}') = false) rest
  simp only [members?, e.text_append, hquote, string?_append he.name, hcolon, hvalue, hskip,
    Option.bind_eq_bind, Option.bind_some]
  rfl

theorem members?_next {e : Entry} (h : Reads depth e.slot.core e.slot.value) (he : e.IsSpelled)
    (hfuel : 2 * e.text.length ≤ fuel) (hcs : members? fuel depth cs = some (vs, rest)) :
    members? (fuel + 1) depth (e.text ++ some ',' :: cs) = some (e.member :: vs, rest) := by
  have hlength := e.length_slot_le
  have hquote := skipSpace_append he.before (by decide : isSpace (some '"') = false)
  have hcolon := skipSpace_append he.after (by decide : isSpace (some ':') = false)
  have hvalue := value?_slot h he.slot (by omega : 2 * e.slot.text.length ≤ fuel)
    (isBoundary_cons (.inl rfl) cs)
  have hskip := skipSpace_append he.slot.2 (by decide : isSpace (some ',') = false) cs
  simp only [members?, e.text_append, hquote, string?_append he.name, hcolon, hvalue, hskip, hcs,
    Option.bind_eq_bind, Option.bind_some]
  rfl

theorem members?_append {entries : List Entry} (hne : entries ≠ [])
    (hspelled : ∀ e ∈ entries, e.IsSpelled)
    (h : ∀ e ∈ entries, Reads depth e.slot.core e.slot.value)
    (hfuel : 2 * (commaSeparated (entries.map Entry.text)).length + 1 ≤ fuel) (rest : Input) :
    members? fuel depth (commaSeparated (entries.map Entry.text) ++ some '}' :: rest) =
      some (entries.map Entry.member, rest) := by
  induction entries generalizing fuel with
  | nil => exact absurd rfl hne
  | cons e entries ih =>
    obtain ⟨he, hentries⟩ := List.forall_mem_cons.1 hspelled
    obtain ⟨hread, hreads⟩ := List.forall_mem_cons.1 h
    cases fuel with
    | zero => cases hfuel
    | succ fuel =>
      cases entries with
      | nil =>
        rw [List.map_singleton, commaSeparated_singleton] at hfuel ⊢
        exact members?_last hread he (by omega) rest
      | cons e' entries =>
        rw [List.map_cons, List.map_cons, commaSeparated_cons_cons, ← List.map_cons] at hfuel ⊢
        rw [List.length_append, List.length_cons] at hfuel
        rw [List.append_assoc, List.cons_append]
        exact members?_next hread he (by omega)
          (ih (List.cons_ne_nil _ _) hentries hreads (by omega))

theorem commaSeparated_cons_append (part : Input) (parts : List Input) (tail : Input) :
    ∃ cs, commaSeparated (part :: parts) ++ tail = part ++ cs := by
  cases parts with
  | nil => exact ⟨tail, by rw [commaSeparated_singleton]⟩
  | cons part' parts => exact ⟨_, by rw [commaSeparated_cons_cons, List.append_assoc]⟩

theorem skipSpace_slots {slots : List Slot} (hne : slots ≠ []) (hspaced : ∀ s ∈ slots, s.IsSpaced)
    (h : ∀ s ∈ slots, IsValue depth s.core s.value) (tail : Input) :
    ∃ c cs, skipSpace (commaSeparated (slots.map Slot.text) ++ tail) = c :: cs ∧ c ≠ some ']' := by
  cases slots with
  | nil => exact absurd rfl hne
  | cons s slots =>
    obtain ⟨cs, hcs⟩ := commaSeparated_cons_append s.text (slots.map Slot.text) tail
    obtain ⟨c, core, hcore, hspace, hc⟩ := (h s List.mem_cons_self).exists_cons
    refine ⟨c, core ++ (s.after ++ cs), ?_, hc⟩
    rw [List.map_cons, hcs, Slot.text, hcore, List.append_assoc, List.cons_append, List.cons_append,
      skipSpace_append (hspaced s List.mem_cons_self).1 hspace, List.append_assoc]

theorem skipSpace_entries {entries : List Entry} (hne : entries ≠ [])
    (hspelled : ∀ e ∈ entries, e.IsSpelled) (tail : Input) :
    ∃ cs, skipSpace (commaSeparated (entries.map Entry.text) ++ tail) = some '"' :: cs := by
  cases entries with
  | nil => exact absurd rfl hne
  | cons e entries =>
    obtain ⟨cs, hcs⟩ := commaSeparated_cons_append e.text (entries.map Entry.text) tail
    rw [List.map_cons, hcs, Entry.text, List.append_assoc, List.cons_append,
      skipSpace_append (hspelled e List.mem_cons_self).before (by decide)]
    exact ⟨_, rfl⟩

theorem reads_emptyArray (h : IsBlank space) (depth : Nat) :
    Reads depth (some '[' :: (space ++ [some ']'])) (within depth (.array [])) := by
  refine reads_enclosed fun fuel rest _ => ?_
  rw [value?, skipSpace_cons (by decide)]
  simp only [skipSpace_append h (by decide : isSpace (some ']') = false)]
  rfl

theorem reads_emptyObject (h : IsBlank space) (depth : Nat) :
    Reads depth (some '{' :: (space ++ [some '}'])) (within depth (.object [])) := by
  refine reads_enclosed fun fuel rest _ => ?_
  rw [value?, skipSpace_cons (by decide)]
  simp only [skipSpace_append h (by decide : isSpace (some '}') = false)]
  rfl

theorem reads_array {slots : List Slot} (hne : slots ≠ []) (hspaced : ∀ s ∈ slots, s.IsSpaced)
    (hvalue : ∀ s ∈ slots, IsValue (depth + 1) s.core s.value)
    (h : ∀ s ∈ slots, Reads (depth + 1) s.core s.value) :
    Reads depth (some '[' :: (commaSeparated (slots.map Slot.text) ++ [some ']']))
      (within depth (.array (slots.map Slot.value))) := by
  refine reads_enclosed fun fuel rest hfuel => ?_
  obtain ⟨c, cs, hskip, hc⟩ := skipSpace_slots hne hspaced hvalue (some ']' :: rest)
  have hitems := items?_append hne hspaced h (by omega : _ ≤ fuel) rest
  rw [value?, skipSpace_cons (by decide)]
  simp only [hskip]
  split
  · next heq => exact absurd (List.cons.inj heq).1 hc
  · simp only [hitems, Option.bind_eq_bind, Option.bind_some]
    rfl

theorem reads_object {entries : List Entry} (hne : entries ≠ [])
    (hspelled : ∀ e ∈ entries, e.IsSpelled)
    (h : ∀ e ∈ entries, Reads (depth + 1) e.slot.core e.slot.value) :
    Reads depth (some '{' :: (commaSeparated (entries.map Entry.text) ++ [some '}']))
      (within depth (objectOf (entries.map Entry.member))) := by
  refine reads_enclosed fun fuel rest hfuel => ?_
  obtain ⟨cs, hskip⟩ := skipSpace_entries hne hspelled (some '}' :: rest)
  have hmembers := members?_append hne hspelled h (by omega : _ ≤ fuel) rest
  rw [value?, skipSpace_cons (by decide)]
  simp only [hskip, hmembers, Option.bind_eq_bind, Option.bind_some]
  rfl

/-- A value is read wherever it stands, with fuel for its length. -/
theorem reads_of_isValue (h : IsValue depth cs j) : Reads depth cs j := by
  induction h with
  | keyword h => exact reads_keyword h _
  | number h => exact reads_number h _
  | string h => exact reads_string h _
  | emptyArray h => exact reads_emptyArray h _
  | array slots hne hspaced h ih => exact reads_array hne hspaced h ih
  | emptyObject h => exact reads_emptyObject h _
  | object entries hne hspelled h ih => exact reads_object hne hspelled ih

/-- A text of the grammar has the value that is read of it. -/
theorem text?_of_isText (h : IsText body j) : text? body = some j := by
  obtain ⟨before, core, after, rfl, hbefore, hafter, hvalue⟩ := h
  have hboundary : IsBoundary after := List.append_nil after ▸ hafter.isBoundary nofun
  have hread := reads_of_isValue hvalue (2 * (before ++ (core ++ after)).length + 2) before after
    (by simp only [List.length_append]; omega) hbefore hboundary
  have hskip : skipSpace after = [] := by
    rw [skipSpace, ← List.append_nil after, List.dropWhile_append_of_pos hafter, List.dropWhile_nil]
  rw [text?, hread]
  exact guard_bind (List.isEmpty_iff.2 hskip) fun _ => some j

end Remedy.Json.Reader
