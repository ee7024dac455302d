import Remedy.Proofs.Json.Kept
import Remedy.Json.Record

namespace Remedy.Json

/-- Whatever is decoded has an encoding that is a value, and from which the same is decoded; so it
changes nothing to decode an encoding and to encode that again. -/
structure IsNormalForm (decode? : Json → Option α) (encode : α → Json) : Prop where
  isKept {j : Json} {a : α} : decode? j = some a → (encode a).IsKept
  decode?_encode {j : Json} {a : α} : decode? j = some a → decode? (encode a) = some a
  idempotent {j k : Json} : (decode? j).map encode = some k → (decode? k).map encode = some k

/-- The same of a field, which may be absent where it is read, but is there when it is written. -/
structure IsFieldForm (read? : Option Json → Option α) (encode : α → Json) : Prop where
  isKept {field : Option Json} {a : α} : read? field = some a → (encode a).IsKept
  read?_encode {field : Option Json} {a : α} :
    read? field = some a → read? (some (encode a)) = some a

section Values

variable {decode? : Json → Option α} {encode : α → Json}

theorem IsNormalForm.of (hkept : ∀ {j a}, decode? j = some a → (encode a).IsKept)
    (hdecode : ∀ {j a}, decode? j = some a → decode? (encode a) = some a) :
    IsNormalForm decode? encode := by
  refine ⟨hkept, hdecode, fun {j k} h => ?_⟩
  obtain ⟨a, ha, rfl⟩ := Option.map_eq_some_iff.1 h
  rw [hdecode ha, Option.map_some]

theorem isNormalForm_string : IsNormalForm string? string := .of (fun _ => rfl) fun _ => rfl

theorem isNormalForm_bool : IsNormalForm bool? bool := .of (fun _ => rfl) fun _ => rfl

theorem isNormalForm_value : IsNormalForm value? id := .of isKept_of_value? isKept_of_value?

theorem lt_of_nat?_eq_some {number : Number} (h : number.nat? bits = some n) : n < twoTo bits := by
  cases number with
  | real => cases h
  | integer i =>
    cases i with
    | negSucc => cases h
    | ofNat m =>
      obtain ⟨hlt, heq⟩ := Option.ite_none_right_eq_some.1 h
      cases heq
      exact hlt

theorem isNormalForm_nat (bits : Nat) : IsNormalForm (nat? bits) ofNat := by
  refine .of (fun _ => rfl) fun {j n} h => ?_
  cases j with
  | number number => exact if_pos (lt_of_nat?_eq_some h)
  | _ => cases h

theorem isNormalForm_list (h : IsNormalForm decode? encode) :
    IsNormalForm (list? decode?) fun as => array (as.map encode) := by
  have hitem {j : Json} {as : List α} (hj : list? decode? j = some as) :
      ∀ a ∈ as, ∃ item, decode? item = some a := by
    cases j with
    | array items =>
      obtain ⟨-, rfl⟩ := mapM_eq_some_iff.1 hj
      intro a ha
      obtain ⟨item, -, hitem⟩ := List.mem_filterMap.1 ha
      exact ⟨item, hitem⟩
    | _ => cases hj
  refine .of (fun hj => isKept_array ?_) fun {j as} hj => mapM_eq_some_iff.2 ⟨?_, ?_⟩
  · intro k hk
    obtain ⟨a, ha, rfl⟩ := List.mem_map.1 hk
    obtain ⟨item, hitem⟩ := hitem hj a ha
    exact h.isKept hitem
  · intro k hk
    obtain ⟨a, ha, rfl⟩ := List.mem_map.1 hk
    obtain ⟨item, hitem⟩ := hitem hj a ha
    rw [h.decode?_encode hitem, Option.isSome_some]
  · rw [List.filterMap_map]
    refine (List.filterMap_some.symm.trans (List.filterMap_congr fun a ha => ?_))
    obtain ⟨item, hitem⟩ := hitem hj a ha
    exact (h.decode?_encode hitem).symm

theorem isNormalForm_nullable (h : IsNormalForm decode? encode) (hnull : ∀ a, encode a ≠ .null) :
    IsNormalForm (nullable? decode?) (ofOption encode) := by
  have hsome {j : Json} {a : α} (hj : nullable? decode? j = some (some a)) :
      decode? j = some a := by
    cases j with
    | null => cases hj
    | _ =>
      obtain ⟨a', ha, haa⟩ := Option.map_eq_some_iff.1 hj
      cases haa
      exact ha
  refine .of (fun {j a?} hj => ?_) fun {j a?} hj => ?_
  · cases a? with
    | none => exact rfl
    | some a => exact h.isKept (hsome hj)
  · cases a? with
    | none => rfl
    | some a =>
      have ha := h.decode?_encode (hsome hj)
      have hne := hnull a
      rw [ofOption]
      cases hk : encode a with
      | null => exact absurd hk hne
      | _ =>
        rw [hk] at ha
        exact congrArg (Option.map some) ha

end Values

section Fields

variable {decode? : Json → Option α} {encode : α → Json}

theorem isFieldForm_of {read? : Option Json → Option α} (h : IsNormalForm decode? encode)
    (hread : ∀ {field a}, read? field = some a → ∃ j, decode? j = some a)
    (hdecode : ∀ a, read? (some (encode a)) = decode? (encode a)) : IsFieldForm read? encode := by
  refine ⟨fun hfield => ?_, fun hfield => ?_⟩
  · obtain ⟨j, hj⟩ := hread hfield
    exact h.isKept hj
  · obtain ⟨j, hj⟩ := hread hfield
    rw [hdecode, h.decode?_encode hj]

theorem isFieldForm_required (h : IsNormalForm decode? encode) :
    IsFieldForm (required decode?) encode := by
  refine isFieldForm_of h (fun hfield => ?_) fun _ => rfl
  obtain ⟨j, -, hj⟩ := Option.bind_eq_some_iff.1 hfield
  exact ⟨j, hj⟩

theorem isFieldForm_optional (h : IsNormalForm decode? encode)
    (habsent : decode? k = some absent) : IsFieldForm (optional absent decode?) encode := by
  refine isFieldForm_of h (fun {field a} hfield => ?_) fun _ => rfl
  cases field with
  | none =>
    cases hfield
    exact ⟨k, habsent⟩
  | some j => exact ⟨j, hfield⟩

theorem isFieldForm_nullAs (h : IsNormalForm decode? encode) (hnull : ∀ a, encode a ≠ .null)
    (habsent : decode? k = some absent) : IsFieldForm (nullAs absent decode?) encode := by
  refine isFieldForm_of h (fun {field a} hfield => ?_) fun a => ?_
  · cases field with
    | none =>
      cases hfield
      exact ⟨k, habsent⟩
    | some j =>
      cases j with
      | null =>
        cases hfield
        exact ⟨k, habsent⟩
      | _ => exact ⟨_, hfield⟩
  · have hne := hnull a
    cases hk : encode a with
    | null => exact absurd hk hne
    | _ => rfl

end Fields

theorem fields?_object {members : List (String × Json)} (hnames : (members.map (·.1)).Nodup)
    (names : List String) : (object members).fields? names = some (member? members) := by
  have honce (name : String) : (members.filter (·.1 == name)).length ≤ 1 := by
    have hcount := List.nodup_iff_count_le_one.1 hnames name
    rwa [List.count, List.countP_map, List.countP_eq_length_filter] at hcount
  rw [fields?, if_pos (List.all_eq_true.2 fun name _ => decide_eq_true (honce name))]

/-- A record is encoded with its names, once each, and is decoded from its fields. -/
theorem isNormalForm_record {names : List String} {read? : (String → Option Json) → Option α}
    {members : α → List (String × Json)} (hnodup : names.Nodup)
    (hnames : ∀ a, (members a).map (·.1) = names)
    (h : ∀ {field a}, read? field = some a →
      (∀ m ∈ members a, m.2.IsKept) ∧ read? (member? (members a)) = some a) :
    IsNormalForm (fun j => (j.fields? names).bind read?) fun a => object (members a) := by
  have honce (a : α) : ((members a).map (·.1)).Nodup := by rwa [hnames]
  refine .of (fun {j a} hj => ?_) fun {j a} hj => ?_
  · obtain ⟨field, -, ha⟩ := Option.bind_eq_some_iff.1 hj
    exact isKept_object (honce a) (h ha).1
  · obtain ⟨field, -, ha⟩ := Option.bind_eq_some_iff.1 hj
    exact Option.bind_eq_some_iff.2 ⟨_, fields?_object (honce a) names, (h ha).2⟩

end Remedy.Json
