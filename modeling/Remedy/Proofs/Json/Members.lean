import Remedy.Proofs.Json.Kept
import Remedy.Json.Record

namespace Remedy.Json

variable {members before after : List (String × Json)} {name other : String} {j : Json}

theorem member?_append (before after : List (String × Json)) (name : String) :
    member? (before ++ after) name = (member? after name).or (member? before name) := by
  rw [member?, List.reverse_append, List.find?_append, Option.map_or]
  rfl

theorem member?_cons (m : String × Json) (members : List (String × Json)) (name : String) :
    member? (m :: members) name =
      (member? members name).or (if m.1 = name then some m.2 else none) := by
  rw [← List.singleton_append, member?_append]
  by_cases h : m.1 = name <;> simp [member?, h]

theorem member?_cons_of_ne (h : other ≠ name) (j : Json) (members : List (String × Json)) :
    member? ((other, j) :: members) name = member? members name := by
  rw [member?_cons, if_neg h, Option.or_none]

theorem member?_append_cons_of_ne (h : other ≠ name) (j : Json)
    (before after : List (String × Json)) :
    member? (before ++ (other, j) :: after) name = member? (before ++ after) name := by
  rw [member?_append, member?_append, member?_cons_of_ne h]

theorem mem_of_member? (h : member? members name = some j) : (name, j) ∈ members := by
  obtain ⟨m, hfind, rfl⟩ := Option.map_eq_some_iff.1 h
  have hname := List.find?_some hfind
  obtain rfl := eq_of_beq hname
  exact List.mem_reverse.1 (List.mem_of_find?_eq_some hfind)

theorem member?_eq_none_iff : member? members name = none ↔ ∀ m ∈ members, m.1 ≠ name := by
  rw [member?, Option.map_eq_none_iff, List.find?_eq_none]
  simp only [List.mem_reverse, beq_iff_eq, ne_eq]

/-- None of the names stands twice among the members. -/
def AreOnce (names : List String) (members : List (String × Json)) : Prop :=
  ∀ name ∈ names, (members.filter (·.1 == name)).length ≤ 1

theorem length_filter_eq_count (members : List (String × Json)) (name : String) :
    (members.filter (·.1 == name)).length = (members.map (·.1)).count name := by
  rw [List.count, List.countP_map, List.countP_eq_length_filter]
  rfl

theorem AreOnce.of_sublist {names : List String} {members' : List (String × Json)}
    (h : AreOnce names members) (hsub : (members'.map (·.1)).Sublist (members.map (·.1))) :
    AreOnce names members' := by
  intro name hname
  have hle := h name hname
  rw [length_filter_eq_count] at hle ⊢
  exact Nat.le_trans (hsub.count_le name) hle

theorem AreOnce.notMem {names : List String}
    (h : AreOnce names (before ++ (name, j) :: after)) (hname : name ∈ names) :
    (∀ m ∈ before, m.1 ≠ name) ∧ ∀ m ∈ after, m.1 ≠ name := by
  have hle := h name hname
  have hkept : ((name, j) :: after).filter (·.1 == name) =
      (name, j) :: after.filter (·.1 == name) := List.filter_cons_of_pos (beq_self_eq_true name)
  rw [List.filter_append, hkept, List.length_append, List.length_cons] at hle
  have hnone {members : List (String × Json)}
      (hlen : (members.filter (·.1 == name)).length = 0) : ∀ m ∈ members, m.1 ≠ name := by
    intro m hm heq
    have hmem : m ∈ members.filter (·.1 == name) := List.mem_filter.2 ⟨hm, beq_iff_eq.2 heq⟩
    rw [List.length_eq_zero_iff.1 hlen] at hmem
    cases hmem
  exact ⟨hnone (by omega), hnone (by omega)⟩

theorem AreOnce.member?_eq {names : List String}
    (h : AreOnce names (before ++ (name, j) :: after)) (hname : name ∈ names) :
    member? (before ++ (name, j) :: after) name = some j := by
  rw [member?_append, member?_cons, member?_eq_none_iff.2 (h.notMem hname).2, if_pos rfl]
  rfl

theorem AreOnce.member?_eq_none {names : List String}
    (h : AreOnce names (before ++ (name, j) :: after)) (hname : name ∈ names) :
    member? (before ++ after) name = none := by
  obtain ⟨hbefore, hafter⟩ := h.notMem hname
  rw [member?_append, member?_eq_none_iff.2 hafter, member?_eq_none_iff.2 hbefore]
  rfl

theorem any_eq_isSome_member? (members : List (String × Json)) (name : String) :
    members.any (·.1 == name) = (member? members name).isSome := by
  rw [member?, Option.isSome_map, List.isSome_find?, List.any_reverse]

theorem member?_distinctMembers (members : List (String × Json)) (name : String) :
    member? (distinctMembers members) name = (member? members name).map distinct := by
  induction members with
  | nil => rfl
  | cons m members ih =>
    obtain ⟨other, j⟩ := m
    rw [distinctMembers, member?_cons, any_eq_isSome_member?]
    by_cases hother : other = name
    · cases hlater : member? members name with
      | none => simp [hother, hlater, member?_cons, ih]
      | some => simp [hother, hlater, ih]
    · rw [if_neg hother, Option.or_none]
      split
      · exact ih
      · rw [member?_cons_of_ne hother, ih]

theorem nodup_distinctMembers (members : List (String × Json)) :
    ((distinctMembers members).map (·.1)).Nodup := by
  induction members with
  | nil => exact .nil
  | cons m members ih =>
    obtain ⟨name, j⟩ := m
    rw [distinctMembers]
    split
    · exact ih
    · next hname =>
      refine List.nodup_cons.2 ⟨fun hmem => hname ?_, ih⟩
      obtain ⟨m, hm, heq⟩ := List.mem_map.1 hmem
      rw [← any_distinctMembers]
      exact List.any_eq_true.2 ⟨m, hm, beq_iff_eq.2 heq⟩

theorem areOnce_distinctMembers (names : List String) (members : List (String × Json)) :
    AreOnce names (distinctMembers members) := by
  intro name _
  rw [length_filter_eq_count]
  exact List.nodup_iff_count_le_one.1 (nodup_distinctMembers members) name

theorem fields?_object_eq_some_iff {names : List String} {field : String → Option Json} :
    (object members).fields? names = some field ↔
      AreOnce names members ∧ field = member? members := by
  simp only [fields?, List.all_eq_true, decide_eq_true_eq, Option.ite_none_right_eq_some,
    Option.some.injEq, AreOnce, @eq_comm _ field]

/-- The second members are the first ones, but with this value under each of the names, or without
a member under them. -/
def Puts (names : List String) (value : Option Json) (members members' : List (String × Json)) :
    Prop :=
  ∀ name, member? members' name = if name ∈ names then value else member? members name

/-- Puts a value under names, or takes what is under them away. -/
def put (names : List String) (value : Option Json) (members : List (String × Json)) :
    List (String × Json) :=
  members.filter (fun m => !decide (m.1 ∈ names)) ++
    value.elim [] fun j => names.map fun name => (name, j)

theorem member?_filter (names : List String) (members : List (String × Json)) (name : String) :
    member? (members.filter fun m => !decide (m.1 ∈ names)) name =
      if name ∈ names then none else member? members name := by
  induction members with
  | nil => exact (ite_self _).symm
  | cons m members ih =>
    rw [List.filter_cons, member?_cons]
    by_cases hm : m.1 = name
    · by_cases hname : name ∈ names <;> simp [hm, hname, member?_cons, ih]
    · by_cases hother : m.1 ∈ names <;> simp [hm, hother, member?_cons, ih]

theorem member?_map (names : List String) (j : Json) (name : String) :
    member? (names.map fun other => (other, j)) name = if name ∈ names then some j else none := by
  induction names with
  | nil => rfl
  | cons other names ih =>
    rw [List.map_cons, member?_cons, ih]
    by_cases hother : other = name
    · by_cases hname : name ∈ names <;> simp [hother, hname]
    · simp [hother, Ne.symm hother]

theorem puts_put (names : List String) (value : Option Json) (members : List (String × Json)) :
    Puts names value members (put names value members) := by
  intro name
  rw [put, member?_append, member?_filter]
  cases value with
  | none => rfl
  | some j =>
    rw [Option.elim_some, member?_map]
    by_cases hname : name ∈ names <;> simp [hname]

theorem isReadable_of_member? (hobject : (object members).isReadable = true)
    (h : member? members name = some j) : j.isReadable = true := by
  have hmem := mem_of_member? h
  clear h
  induction members with
  | nil => cases hmem
  | cons m members ih =>
    obtain ⟨hm, hmembers⟩ := Bool.and_eq_true_iff.1 hobject
    obtain rfl | hmem := List.mem_cons.1 hmem
    · exact hm
    · exact ih hmembers hmem

end Remedy.Json
