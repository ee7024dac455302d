import Remedy.Registry.Page
import Mathlib.Logic.Relation

namespace Remedy.Registry

variable {body : Json.Reader.Input} {entries entries' : List Json} {entry : Json}

/-- The body is read as a page with these entries. -/
def HasEntries (body : Json.Reader.Input) (entries : List Json) : Prop :=
  ∃ hits, (Json.Reader.text? body).bind Page.ofJson? = some ⟨hits, entries⟩

/-- The entry forms a candidate, and one with an identifier. -/
def IsUsable (entry : Json) : Prop :=
  ∃ c, Candidate.ofJson? entry = some c ∧ Text.allBlank c.id = false

def offer? (entry : Json) : Option Candidate :=
  (Candidate.ofJson? entry).filter Candidate.isUsable

theorem offer?_eq_some_iff {c : Candidate} :
    offer? entry = some c ↔ Candidate.ofJson? entry = some c ∧ Text.allBlank c.id = false := by
  rw [offer?, Option.filter_eq_some_iff, Candidate.isUsable, Bool.not_eq_true']

theorem isSome_offer?_iff : (offer? entry).isSome = true ↔ IsUsable entry := by
  simp only [Option.isSome_iff_exists, offer?_eq_some_iff, IsUsable]

theorem offer?_eq_none_iff : offer? entry = none ↔ ¬IsUsable entry := by
  rw [← isSome_offer?_iff, Bool.not_eq_true, Option.isSome_eq_false_iff, Option.isNone_iff_eq_none]

instance : DecidablePred IsUsable := fun _ => decidable_of_iff _ isSome_offer?_iff

theorem ofJson?_eq_offer? (h : IsUsable entry) : Candidate.ofJson? entry = offer? entry := by
  obtain ⟨c, hc, hid⟩ := h
  rw [hc, offer?_eq_some_iff.2 ⟨hc, hid⟩]

theorem candidatesOfBody?_of_hasEntries (h : HasEntries body entries) (cap : Nat) :
    candidatesOfBody? cap body = some ((entries.filterMap offer?).take (clampCap cap)) := by
  obtain ⟨hits, hpage⟩ := h
  obtain ⟨j, hj, hpage⟩ := Option.bind_eq_some_iff.1 hpage
  rw [candidatesOfBody?, hj, Option.bind_eq_bind, Option.bind_some, hpage, Option.bind_eq_bind,
    Option.bind_some, Page.offered, Page.candidates, List.filter_filterMap]
  rfl

/-- One change among a page's entries that no usable one is part of. -/
inductive Edit : List Json → List Json → Prop
  | insert (before after : List Json) : ¬IsUsable e →
      Edit (before ++ after) (before ++ e :: after)
  | delete (before after : List Json) : ¬IsUsable e →
      Edit (before ++ e :: after) (before ++ after)
  | replace (before after : List Json) : ¬IsUsable e → ¬IsUsable e' →
      Edit (before ++ e :: after) (before ++ e' :: after)

theorem filterMap_offer?_cons_of_not_isUsable (h : ¬IsUsable entry) (before after : List Json) :
    (before ++ entry :: after).filterMap offer? = (before ++ after).filterMap offer? := by
  rw [List.filterMap_append, List.filterMap_cons_none (offer?_eq_none_iff.2 h),
    ← List.filterMap_append]

theorem Edit.filterMap_offer? (h : Edit entries entries') :
    entries'.filterMap offer? = entries.filterMap offer? := by
  cases h with
  | insert before after he => exact filterMap_offer?_cons_of_not_isUsable he before after
  | delete before after he => exact (filterMap_offer?_cons_of_not_isUsable he before after).symm
  | replace before after he he' =>
    rw [filterMap_offer?_cons_of_not_isUsable he, filterMap_offer?_cons_of_not_isUsable he']

theorem filterMap_offer?_of_edits (h : Relation.ReflTransGen Edit entries entries') :
    entries'.filterMap offer? = entries.filterMap offer? := by
  induction h with
  | refl => rfl
  | tail _ hedit ih => rw [hedit.filterMap_offer?, ih]

theorem map_some_filterMap_offer? (entries : List Json) :
    (entries.filterMap offer?).map some = (entries.filter IsUsable).map Candidate.ofJson? := by
  induction entries with
  | nil => rfl
  | cons e es ih =>
    by_cases h : IsUsable e
    · obtain ⟨c, hc⟩ := Option.isSome_iff_exists.1 (isSome_offer?_iff.2 h)
      have hkept : (e :: es).filter IsUsable = e :: es.filter IsUsable :=
        List.filter_cons_of_pos (decide_eq_true h)
      rw [List.filterMap_cons_some hc, hkept, List.map_cons, List.map_cons, ih,
        ofJson?_eq_offer? h, hc]
    · have hskipped : (e :: es).filter IsUsable = es.filter IsUsable :=
        List.filter_cons_of_neg (by simpa using h)
      rw [List.filterMap_cons_none (offer?_eq_none_iff.2 h), hskipped, ih]

theorem clampCap_mono {n m : Nat} (h : n ≤ m) : clampCap n ≤ clampCap m := by
  rw [clampCap, clampCap]
  omega

theorem clampCap_of_maxCandidates_le {n : Nat} (h : maxCandidates ≤ n) :
    clampCap n = clampCap maxCandidates := by
  rw [clampCap, clampCap, Nat.min_eq_right h, Nat.min_self]

/-- A page offers the candidates of its first usable entries, as many as the cap allows. Unusable
entries may come and go without a change, and a larger cap keeps what a smaller one offers. -/
theorem offers_first_usable (h : HasEntries body entries) (cap : Nat) :
    ∃ cs, candidatesOfBody? cap body = some cs ∧
      cs.map some = ((entries.filter IsUsable).take (max 1 (min cap 5))).map Candidate.ofJson? ∧
      cs.length = min (entries.countP IsUsable) (max 1 (min cap 5)) ∧
      (∀ c ∈ cs, Text.allBlank c.id = false) ∧
      (∀ body' entries', HasEntries body' entries' → Relation.ReflTransGen Edit entries entries' →
        candidatesOfBody? cap body' = some cs) ∧
      (∀ cap', cap ≤ cap' → ∃ cs', candidatesOfBody? cap' body = some cs' ∧ cs <+: cs') ∧
      (5 ≤ cap → candidatesOfBody? 5 body = some cs) ∧
      (cap = 0 → candidatesOfBody? 1 body = some cs) := by
  have hoffers := candidatesOfBody?_of_hasEntries h
  have hdecoded : ((entries.filterMap offer?).take (clampCap cap)).map some =
      ((entries.filter IsUsable).take (clampCap cap)).map Candidate.ofJson? := by
    rw [List.map_take, map_some_filterMap_offer?, ← List.map_take]
  refine ⟨_, hoffers cap, hdecoded, ?_, ?_, ?_, ?_, ?_, ?_⟩
  · have hlength := congrArg List.length hdecoded
    rwa [List.length_map, List.length_map, List.length_take (i := clampCap cap)
      (l := entries.filter _), ← List.countP_eq_length_filter, Nat.min_comm] at hlength
  · intro c hc
    obtain ⟨e, -, he⟩ := List.mem_filterMap.1 (List.mem_of_mem_take hc)
    exact (offer?_eq_some_iff.1 he).2
  · intro body' entries' h' hedits
    rw [candidatesOfBody?_of_hasEntries h', filterMap_offer?_of_edits hedits]
  · intro cap' hle
    exact ⟨_, hoffers cap', List.take_prefix_take_left (clampCap_mono hle)⟩
  · intro hle
    rw [clampCap_of_maxCandidates_le hle]
    exact hoffers maxCandidates
  · rintro rfl
    exact hoffers 1

/-- A page of a usable entry, one with a blank identifier, one that is no candidate, and a usable
one. -/
def mixedBody : Json.Reader.Input :=
  Json.Reader.ofString
    "\x7b\"data\":[\x7b\"id\":\"A\"\x7d,\x7b\"id\":\" \"\x7d,7,\x7b\"id\":\"B\"\x7d]\x7d"

/-- The second usable entry is offered, though it is the fourth. -/
theorem offers_first_usable_mixed : ∃ entries, HasEntries mixedBody entries ∧
    entries.length = 4 ∧ entries.countP IsUsable = 2 ∧
    ∃ cs, candidatesOfBody? 2 mixedBody = some cs ∧ cs.length = 2 ∧
      cs.map (·.id) = ["A", "B"] := by
  have hread : ((Json.Reader.text? mixedBody).bind Page.ofJson?).isSome = true := by
    decide +kernel
  obtain ⟨page, hpage⟩ := Option.isSome_iff_exists.1 hread
  have hcounts : ((Json.Reader.text? mixedBody).bind Page.ofJson?).any
      (fun page => page.entries.length = 4 ∧ page.entries.countP IsUsable = 2) = true := by
    decide +kernel
  have hids : (candidatesOfBody? 2 mixedBody).map (·.map (·.id)) = some ["A", "B"] := by
    decide +kernel
  rw [hpage, Option.any_some, decide_eq_true_eq] at hcounts
  obtain ⟨cs, hcs, -, hlength, -⟩ := offers_first_usable ⟨page.totalHits, hpage⟩ 2
  rw [hcs, Option.map_some, Option.some.injEq] at hids
  rw [hcounts.2] at hlength
  exact ⟨page.entries, ⟨page.totalHits, hpage⟩, hcounts.1, hcounts.2, cs, hcs, hlength, hids⟩

end Remedy.Registry
