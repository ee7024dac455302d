import Remedy.Diagnostic.Basic
import Remedy.Proofs.Diagnostic.Code
import Remedy.Proofs.Json.Kept
import Remedy.Proofs.Json.Members

namespace Remedy.Diagnostic

open Json (member? AreOnce)

namespace Code

/-- The second value is the first, or stands in it under `value`, in any number of objects. -/
inductive Holds : Json → Json → Prop
  | self (j : Json) : Holds j j
  | value : member? members "value" = some j → Holds j k → Holds (.object members) k

/-- An end that names no code. -/
inductive IsMute : Json → Prop
  | missing : member? members "value" = none → IsMute (.object members)
  | null : IsMute .null
  | bool (b : Bool) : IsMute (.bool b)
  | array (items : List Json) : IsMute (.array items)
  | blank : Text.allBlank text = true → IsMute (.string text)

/-- An end that names another code than the unresolved one, by the text. -/
inductive Names : Json → String → Prop
  | string : Text.allBlank text = false → text ≠ unresolvedText → Names (.string text) text
  | number (n : Json.Number) : Names (.number n) n.text

/-- There is nothing further under `value`. -/
def IsEnd (j : Json) : Prop := ∀ members, j = .object members → member? members "value" = none

theorem ofMembers_eq (members : List (String × Json)) (found : Code) :
    ofMembers members found = (member? members "value").elim found ofJson := by
  induction members generalizing found with
  | nil => rfl
  | cons m members ih =>
    rw [ofMembers, ih, Json.member?_cons]
    cases member? members "value" with
    | some => rfl
    | none => by_cases h : m.1 = "value" <;> simp [h]

theorem ofJson_object (members : List (String × Json)) :
    ofJson (.object members) = (member? members "value").elim .absent ofJson := by
  rw [ofJson, ofMembers_eq]

variable {j k : Json} {text : String}

theorem Holds.ofJson_eq (h : Holds j k) : ofJson j = ofJson k := by
  induction h with
  | self => rfl
  | value hv _ ih => rw [ofJson_object, hv, Option.elim_some, ih]

theorem Holds.isReadable (h : Holds j k) (hj : j.isReadable = true) : k.isReadable = true := by
  induction h with
  | self => exact hj
  | value hv _ ih => exact ih (Json.isReadable_of_member? hj hv)

mutual

theorem exists_end : ∀ j : Json, ∃ k, Holds j k ∧ IsEnd k
  | .object members => by
    cases hv : member? members "value" with
    | none => exact ⟨_, .self _, fun _ h => Json.object.inj h ▸ hv⟩
    | some v =>
      obtain ⟨k, hk, hend⟩ := exists_end_of_mem members _ (Json.mem_of_member? hv)
      exact ⟨k, .value hv hk, hend⟩
  | .null | .bool _ | .number _ | .string _ | .array _ | .unreadable => ⟨_, .self _, nofun⟩

theorem exists_end_of_mem : ∀ (members : List (String × Json)),
    ∀ m ∈ members, ∃ k, Holds m.2 k ∧ IsEnd k
  | (_, j) :: members => List.forall_mem_cons.2 ⟨exists_end j, exists_end_of_mem members⟩
  | [] => fun _ h => absurd h List.not_mem_nil

end

theorem parse_unresolvedText : parse unresolvedText = .unresolved := by decide

theorem parse_of_allBlank (h : Text.allBlank text = true) : parse text = .absent := if_pos h

theorem parse_of_proper (hblank : Text.allBlank text = false) (hne : text ≠ unresolvedText) :
    parse text = .other text := by
  rw [parse, hblank, if_neg Bool.false_ne_true, if_neg hne]

theorem parse_cases (text : String) :
    Text.allBlank text = true ∨ text = unresolvedText ∨
      Text.allBlank text = false ∧ text ≠ unresolvedText := by
  cases Text.allBlank text with
  | true => exact .inl rfl
  | false => exact .inr ((Decidable.em _).imp_right fun h => ⟨rfl, h⟩)

theorem IsMute.ofJson_eq (h : IsMute j) : ofJson j = .absent := by
  cases h with
  | missing hv => rw [ofJson_object, hv, Option.elim_none]
  | blank hblank => exact parse_of_allBlank hblank
  | null | bool | array => rfl

theorem Names.ofJson_eq (h : Names j text) : ofJson j = .other text := by
  cases h with
  | string hblank hne => exact parse_of_proper hblank hne
  | number => rfl

theorem exists_holds (hj : j.isReadable = true) :
    ∃ k, Holds j k ∧ (k = .string unresolvedText ∨ IsMute k ∨ ∃ text, Names k text) := by
  obtain ⟨k, hk, hend⟩ := exists_end j
  refine ⟨k, hk, ?_⟩
  cases k with
  | null => exact .inr (.inl .null)
  | bool b => exact .inr (.inl (.bool b))
  | number n => exact .inr (.inr ⟨_, .number n⟩)
  | array items => exact .inr (.inl (.array items))
  | object members => exact .inr (.inl (.missing (hend members rfl)))
  | unreadable => cases hk.isReadable hj
  | string text =>
    obtain hblank | rfl | ⟨hblank, hne⟩ := parse_cases text
    · exact .inr (.inl (.blank hblank))
    · exact .inl rfl
    · exact .inr (.inr ⟨text, .string hblank hne⟩)

section Values

variable (hj : j.isReadable = true)
include hj

theorem ofJson_eq_unresolved_iff : ofJson j = .unresolved ↔ Holds j (.string unresolvedText) := by
  refine ⟨fun h => ?_, fun h => h.ofJson_eq.trans parse_unresolvedText⟩
  obtain ⟨k, hk, rfl | hmute | ⟨text, hnames⟩⟩ := exists_holds hj
  · exact hk
  · rw [hk.ofJson_eq, hmute.ofJson_eq] at h
    cases h
  · rw [hk.ofJson_eq, hnames.ofJson_eq] at h
    cases h

theorem ofJson_eq_absent_iff : ofJson j = .absent ↔ ∃ k, Holds j k ∧ IsMute k := by
  refine ⟨fun h => ?_, fun ⟨k, hk, hmute⟩ => hk.ofJson_eq.trans hmute.ofJson_eq⟩
  obtain ⟨k, hk, rfl | hmute | ⟨text, hnames⟩⟩ := exists_holds hj
  · rw [hk.ofJson_eq] at h
    cases parse_unresolvedText.symm.trans h
  · exact ⟨k, hk, hmute⟩
  · rw [hk.ofJson_eq, hnames.ofJson_eq] at h
    cases h

theorem ofJson_eq_other_iff : ofJson j = .other text ↔ ∃ k, Holds j k ∧ Names k text := by
  refine ⟨fun h => ?_, fun ⟨k, hk, hnames⟩ => hk.ofJson_eq.trans hnames.ofJson_eq⟩
  obtain ⟨k, hk, rfl | hmute | ⟨text', hnames⟩⟩ := exists_holds hj
  · rw [hk.ofJson_eq] at h
    cases parse_unresolvedText.symm.trans h
  · rw [hk.ofJson_eq, hmute.ofJson_eq] at h
    cases h
  · rw [hk.ofJson_eq, hnames.ofJson_eq] at h
    cases h
    exact ⟨k, hk, hnames⟩

end Values

end Code

def fieldNames : List String := ["code", "message", "range", "source"]

theorem ofJson?_object_eq_some_iff {members : List (String × Json)} {d : Diagnostic} :
    ofJson? (.object members) = some d ↔ AreOnce fieldNames members ∧
      Json.optional .absent Code.ofJson? (member? members "code") = some d.code ∧
      Json.nullAs "" Json.string? (member? members "message") = some d.message ∧
      Json.optional {} Range.ofJson? (member? members "range") = some d.range ∧
      Json.optional none (Json.nullable? Json.string?) (member? members "source") =
        some d.source := by
  simp only [ofJson?, Option.bind_eq_bind, Option.bind_eq_some_iff, Option.pure_def,
    Option.some.injEq, Json.fields?_object_eq_some_iff]
  constructor
  · rintro ⟨_, ⟨honce, rfl⟩, code, hcode, message, hmessage, range, hrange, source, hsource, rfl⟩
    exact ⟨honce, hcode, hmessage, hrange, hsource⟩
  · rintro ⟨honce, hcode, hmessage, hrange, hsource⟩
    exact ⟨_, ⟨honce, rfl⟩, _, hcode, _, hmessage, _, hrange, _, hsource, rfl⟩

/-- The second object is the first with another value for its code, or without its code. -/
inductive Recodes : Json → Json → Option Json → Prop
  | replace (before after : List (String × Json)) : v.value? = some k →
      Recodes (.object (before ++ ("code", old) :: after))
        (.object (before ++ ("code", v) :: after)) (some k)
  | remove (before after : List (String × Json)) :
      Recodes (.object (before ++ ("code", old) :: after)) (.object (before ++ after)) none

variable {items items' : List Json} {ds : List Diagnostic}

theorem ofJson?_of_agrees {members members' : List (String × Json)} {code : Code}
    (hd : ofJson? (.object members) = some d)
    (hnames : (members'.map (·.1)).Sublist (members.map (·.1)))
    (hothers : ∀ name, "code" ≠ name → member? members' name = member? members name)
    (hcode : AreOnce fieldNames members' →
      Json.optional .absent Code.ofJson? (member? members' "code") = some code) :
    ofJson? (.object members') = some { d with code } := by
  obtain ⟨honce, -, hmessage, hrange, hsource⟩ := ofJson?_object_eq_some_iff.1 hd
  have honce' := honce.of_sublist hnames
  refine ofJson?_object_eq_some_iff.2 ⟨honce', hcode honce', ?_, ?_, ?_⟩
  · rwa [hothers "message" (by decide)]
  · rwa [hothers "range" (by decide)]
  · rwa [hothers "source" (by decide)]

/-- Another code leaves the rest of its diagnostic as it is. -/
theorem Recodes.ofJson?_eq {code : Option Json} (h : Recodes j j' code)
    (hd : ofJson? j = some d) :
    ofJson? j' = some { d with code := code.elim .absent Code.ofJson } := by
  have hmem : "code" ∈ fieldNames := List.mem_cons_self
  cases h with
  | replace _ _ hv =>
    refine ofJson?_of_agrees hd ?_ (fun name hname => ?_) fun honce => ?_
    · simp
    · rw [Json.member?_append_cons_of_ne hname, Json.member?_append_cons_of_ne hname]
    · rw [honce.member?_eq hmem, Json.optional, Code.ofJson?, hv]
      rfl
  | remove =>
    refine ofJson?_of_agrees hd ?_ (fun name hname => ?_) fun _ => ?_
    · simp
    · rw [Json.member?_append_cons_of_ne hname]
    · have honce := (ofJson?_object_eq_some_iff.1 hd).1
      rw [honce.member?_eq_none hmem]
      rfl

/-- At every place stands the same item, or the item with another code. -/
structure AreRecoded (items items' : List Json) : Prop where
  length_eq : items'.length = items.length
  recodes (i : Nat) {j j' : Json} : items[i]? = some j → items'[i]? = some j' →
    j' = j ∨ ∃ code, Recodes j j' code

theorem AreRecoded.ofJson?_eq (h : AreRecoded items items') {i : Nat} (hj : items[i]? = some j)
    (hj' : items'[i]? = some j') (hd : ofJson? j = some d) :
    ∃ code, ofJson? j' = some { d with code } := by
  obtain rfl | ⟨code, hcode⟩ := h.recodes i hj hj'
  · exact ⟨d.code, hd⟩
  · exact ⟨_, hcode.ofJson?_eq hd⟩

theorem AreRecoded.exists_listOfJson? (h : AreRecoded items items')
    (hds : listOfJson? (.array items) = some ds) :
    ∃ ds', listOfJson? (.array items') = some ds' := by
  refine ⟨_, Json.mapM_eq_some_iff.2 ⟨fun j' hj' => ?_, rfl⟩⟩
  obtain ⟨i, hlt, hi⟩ := List.getElem_of_mem hj'
  have hlt' : i < items.length := h.length_eq ▸ hlt
  have hsome := (Json.mapM_eq_some_iff.1 hds).1 items[i] (List.getElem_mem hlt')
  obtain ⟨d, hd⟩ := Option.isSome_iff_exists.1 hsome
  obtain ⟨code, hcode⟩ := h.ofJson?_eq (List.getElem?_eq_getElem hlt')
    (List.getElem?_eq_some_iff.2 ⟨hlt, hi⟩) hd
  rw [hcode, Option.isSome_some]

/-- The code of a diagnostic is the unresolved one, none or another according to what stands at the
end of a chain of objects. Other codes in a set of diagnostics, whatever values they are, or no
codes, leave all else in the set as it is. -/
theorem code_exact_and_contained :
    (∀ j : Json, j.isReadable = true →
      (Code.ofJson j = .unresolved ↔ Code.Holds j (.string "CS0246")) ∧
      (Code.ofJson j = .absent ↔ ∃ k, Code.Holds j k ∧ Code.IsMute k) ∧
      ∀ text, (Code.ofJson j = .other text ↔ ∃ k, Code.Holds j k ∧ Code.Names k text) ∧
        (Code.ofJson j = .other text → Text.allBlank text = false ∧ text ≠ "CS0246")) ∧
    ∀ items items' ds, listOfJson? (.array items) = some ds → AreRecoded items items' →
      ∃ ds' : List Diagnostic, listOfJson? (.array items') = some ds' ∧ ds'.length = ds.length ∧
        ∀ (i : Nat) d, ds[i]? = some d → ∃ d', ds'[i]? = some d' ∧
          d'.message = d.message ∧ d'.range = d.range ∧ d'.source = d.source ∧
          (items'[i]? = items[i]? → d' = d) ∧
          ∀ j j' code, items[i]? = some j → items'[i]? = some j' → Recodes j j' code →
            d'.code = code.elim .absent Code.ofJson := by
  refine ⟨fun j hj => ⟨Code.ofJson_eq_unresolved_iff hj, Code.ofJson_eq_absent_iff hj,
    fun text => ⟨Code.ofJson_eq_other_iff hj, Code.isProper_ofJson j text⟩⟩,
    fun items items' ds hds h => ?_⟩
  obtain ⟨ds', hds'⟩ := h.exists_listOfJson? hds
  refine ⟨ds', hds', ?_, fun i d hd => ?_⟩
  · rw [Json.length_mapM hds', Json.length_mapM hds, h.length_eq]
  · rw [Json.getElem?_mapM hds] at hd
    obtain ⟨j, hj, hd⟩ := Option.bind_eq_some_iff.1 hd
    have hlt : i < items'.length := h.length_eq ▸ (List.getElem?_eq_some_iff.1 hj).1
    have hj' : items'[i]? = some items'[i] := List.getElem?_eq_getElem hlt
    obtain ⟨code, hcode⟩ := h.ofJson?_eq hj hj' hd
    refine ⟨{ d with code }, ?_, rfl, rfl, rfl, fun hsame => ?_,
      fun k k' code' hk hk' hrecodes => ?_⟩
    · rw [Json.getElem?_mapM hds', hj', Option.bind_some, hcode]
    · rw [hj, hj', Option.some.injEq] at hsame
      rw [hsame, hd, Option.some.injEq] at hcode
      exact hcode.symm
    · obtain rfl := Option.some.inj (hj.symm.trans hk)
      obtain rfl := Option.some.inj (hj'.symm.trans hk')
      have hcode' := hrecodes.ofJson?_eq hd
      rw [hcode, Option.some.injEq] at hcode'
      exact congrArg Diagnostic.code hcode'

/-- A code given as an array and a code left out change nothing else. -/
theorem code_exact_and_contained_odd :
    let range : Json := Range.toJson ⟨⟨3, 4⟩, ⟨3, 7⟩⟩
    let nested : Json := .object [("value", .object [("target", .null),
      ("value", .string "CS0246")])]
    let items : List Json := [
      .object [("code", nested), ("message", .string "'A'"), ("range", range)],
      .object [("message", .string "x"), ("code", .string "CS1002")]]
    let items' : List Json := [
      .object [("code", .array [nested]), ("message", .string "'A'"), ("range", range)],
      .object [("message", .string "x")]]
    nested.isReadable = true ∧ Code.ofJson nested = .unresolved ∧ AreRecoded items items' ∧
      (listOfJson? (.array items)).isSome = true ∧ ∃ ds', listOfJson? (.array items') = some ds' ∧
        ds'.length = 2 := by
  intro range nested items items'
  have hreadable : nested.isReadable = true := by decide
  have hholds : Code.Holds nested (.string "CS0246") := .value rfl (.value rfl (.self _))
  have hvalue : (Json.array [nested]).value? = some (.array [nested]) := rfl
  have hrecoded : AreRecoded items items' := by
    refine ⟨rfl, fun i j j' hj hj' => ?_⟩
    match i with
    | 0 =>
      cases hj
      cases hj'
      exact .inr ⟨_, .replace [] _ hvalue⟩
    | 1 =>
      cases hj
      cases hj'
      exact .inr ⟨none, .remove [_] []⟩
    | i + 2 => cases hj
  have hsome : (listOfJson? (.array items)).isSome = true := by decide +kernel
  obtain ⟨ds, hds⟩ := Option.isSome_iff_exists.1 hsome
  obtain ⟨hexact, hcontained⟩ := code_exact_and_contained
  obtain ⟨ds', hds', hlength, -⟩ := hcontained items items' ds hds hrecoded
  rw [Json.length_mapM hds] at hlength
  exact ⟨hreadable, (hexact nested hreadable).1.2 hholds, hrecoded, hsome, ds', hds', hlength⟩

end Remedy.Diagnostic
