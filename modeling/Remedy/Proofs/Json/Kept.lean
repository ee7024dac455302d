import Remedy.Json.Basic
import Mathlib.Data.List.Nodup

namespace Remedy.Json

theorem mapM_eq_some_iff {f : α → Option β} {as : List α} {bs : List β} :
    as.mapM f = some bs ↔ (∀ a ∈ as, (f a).isSome = true) ∧ bs = as.filterMap f := by
  induction as generalizing bs with
  | nil => exact ⟨fun h => ⟨nofun, (Option.some.inj h).symm⟩, fun h => congrArg some h.2.symm⟩
  | cons a as ih =>
    rw [List.mapM_cons, List.forall_mem_cons]
    cases ha : f a with
    | none => simp
    | some b =>
      simp only [Option.bind_eq_bind, Option.bind_some, Option.bind_eq_some_iff, ih,
        List.filterMap_cons_some ha]
      constructor
      · rintro ⟨_, ⟨has, rfl⟩, hbs⟩
        exact ⟨⟨rfl, has⟩, (Option.some.inj hbs).symm⟩
      · rintro ⟨⟨-, has⟩, rfl⟩
        exact ⟨_, ⟨has, rfl⟩, rfl⟩

theorem exists_of_mapM_cons {f : α → Option β} {a : α} {as : List α} {cs : List β}
    (h : (a :: as).mapM f = some cs) :
    ∃ b bs, f a = some b ∧ as.mapM f = some bs ∧ cs = b :: bs := by
  rw [List.mapM_cons] at h
  obtain ⟨b, hb, h⟩ := Option.bind_eq_some_iff.1 h
  obtain ⟨bs, hbs, h⟩ := Option.bind_eq_some_iff.1 h
  exact ⟨b, bs, hb, hbs, (Option.some.inj h).symm⟩

theorem length_mapM {f : α → Option β} {as : List α} {bs : List β} (h : as.mapM f = some bs) :
    bs.length = as.length := by
  induction as generalizing bs with
  | nil =>
    cases h
    rfl
  | cons a as ih =>
    obtain ⟨b, bs, -, hbs, rfl⟩ := exists_of_mapM_cons h
    exact congrArg (· + 1) (ih hbs)

theorem getElem?_mapM {f : α → Option β} {as : List α} {bs : List β} (h : as.mapM f = some bs)
    (i : Nat) : bs[i]? = as[i]?.bind f := by
  induction as generalizing bs i with
  | nil =>
    cases h
    rfl
  | cons a as ih =>
    obtain ⟨b, bs, hb, hbs, rfl⟩ := exists_of_mapM_cons h
    cases i with
    | zero => exact hb.symm
    | succ i => exact ih hbs i

mutual

theorem isReadable_distinct : ∀ j : Json, j.isReadable = true → j.distinct.isReadable = true
  | .array items, h => areReadable_distinctItems items h
  | .object members, h => membersReadable_distinctMembers members h
  | .null, h | .bool _, h | .number _, h | .string _, h | .unreadable, h => h

theorem areReadable_distinctItems : ∀ items : List Json,
    areReadable items = true → areReadable (distinctItems items) = true
  | [], h => h
  | j :: items, h => by
    obtain ⟨hj, hitems⟩ := Bool.and_eq_true_iff.1 h
    exact Bool.and_eq_true_iff.2
      ⟨isReadable_distinct j hj, areReadable_distinctItems items hitems⟩

theorem membersReadable_distinctMembers : ∀ members : List (String × Json),
    membersReadable members = true → membersReadable (distinctMembers members) = true
  | [], h => h
  | (name, j) :: members, h => by
    obtain ⟨hj, hmembers⟩ := Bool.and_eq_true_iff.1 h
    have hrest := membersReadable_distinctMembers members hmembers
    rw [distinctMembers]
    split
    · exact hrest
    · exact Bool.and_eq_true_iff.2 ⟨isReadable_distinct j hj, hrest⟩

end

theorem any_distinctMembers (members : List (String × Json)) (name : String) :
    (distinctMembers members).any (·.1 == name) = members.any (·.1 == name) := by
  induction members with
  | nil => rfl
  | cons m members ih =>
    obtain ⟨other, j⟩ := m
    rw [distinctMembers]
    split
    · next hother =>
      rw [ih, List.any_cons]
      cases hname : other == name with
      | false => rw [Bool.false_or]
      | true => rw [← eq_of_beq hname, hother, Bool.true_or]
    · rw [List.any_cons, List.any_cons, ih]

mutual

theorem distinct_distinct : ∀ j : Json, j.distinct.distinct = j.distinct
  | .array items => congrArg array (distinctItems_distinctItems items)
  | .object members => congrArg object (distinctMembers_distinctMembers members)
  | .null | .bool _ | .number _ | .string _ | .unreadable => rfl

theorem distinctItems_distinctItems : ∀ items : List Json,
    distinctItems (distinctItems items) = distinctItems items
  | [] => rfl
  | j :: items => congrArg₂ List.cons (distinct_distinct j) (distinctItems_distinctItems items)

theorem distinctMembers_distinctMembers : ∀ members : List (String × Json),
    distinctMembers (distinctMembers members) = distinctMembers members
  | [] => rfl
  | (name, j) :: members => by
    have hrest := distinctMembers_distinctMembers members
    by_cases hname : members.any (·.1 == name) = true
    · rw [distinctMembers, if_pos hname, hrest]
    · rw [distinctMembers, if_neg hname, distinctMembers, any_distinctMembers, if_neg hname, hrest,
        distinct_distinct j]

end

def IsKept (j : Json) : Prop := j.value? = some j

variable {j : Json} {items : List Json} {members : List (String × Json)}

theorem value?_isSome_iff : j.value?.isSome = true ↔ j.isReadable = true := by
  rw [value?, Option.isSome_ite]

theorem value?_eq_some_iff {k : Json} :
    j.value? = some k ↔ j.isReadable = true ∧ j.distinct = k := by
  rw [value?, Option.ite_none_right_eq_some, Option.some.injEq]

theorem isKept_of_value? {k : Json} (h : j.value? = some k) : k.IsKept := by
  obtain ⟨hreadable, rfl⟩ := value?_eq_some_iff.1 h
  exact value?_eq_some_iff.2 ⟨isReadable_distinct j hreadable, distinct_distinct j⟩

theorem isKept_array (h : ∀ j ∈ items, j.IsKept) : (array items).IsKept := by
  refine value?_eq_some_iff.2 ?_
  induction items with
  | nil => exact ⟨rfl, rfl⟩
  | cons j items ih =>
    obtain ⟨hj, hitems⟩ := List.forall_mem_cons.1 h
    obtain ⟨hreadable, hdistinct⟩ := value?_eq_some_iff.1 hj
    obtain ⟨hreadable', hdistinct'⟩ := ih hitems
    exact ⟨Bool.and_eq_true_iff.2 ⟨hreadable, hreadable'⟩,
      congrArg array (congrArg₂ List.cons hdistinct (array.inj hdistinct'))⟩

theorem isKept_object (hnames : (members.map (·.1)).Nodup) (h : ∀ m ∈ members, m.2.IsKept) :
    (object members).IsKept := by
  refine value?_eq_some_iff.2 ?_
  induction members with
  | nil => exact ⟨rfl, rfl⟩
  | cons m members ih =>
    obtain ⟨name, j⟩ := m
    obtain ⟨hj, hmembers⟩ := List.forall_mem_cons.1 h
    obtain ⟨hname, hrest⟩ := List.nodup_cons.1 hnames
    obtain ⟨hreadable, hdistinct⟩ := value?_eq_some_iff.1 hj
    obtain ⟨hreadable', hdistinct'⟩ := ih hrest hmembers
    have hany : ¬members.any (·.1 == name) = true := by
      simpa [List.any_eq_true] using hname
    refine ⟨Bool.and_eq_true_iff.2 ⟨hreadable, hreadable'⟩, ?_⟩
    have hmembers' : distinctMembers members = members := object.inj hdistinct'
    rw [distinct, distinctMembers, if_neg hany, hmembers', hdistinct]

end Remedy.Json
