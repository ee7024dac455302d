import Remedy.Proofs.Json.Members
import Remedy.Registry.Page

namespace Remedy.Registry.Candidate

open Json (member? Puts put)

def ofItem? (entry : Json) : Option Candidate := entry.value?.bind ofJson?

def ofFields? (field : String → Option Json) : Option Candidate := do
  return {
    id := ← Json.nullAs "" Json.string? (field "id")
    version := ← Json.nullAs "" Json.string? (field "version")
    title := ← Json.nullAs "" Json.string? (field "title")
    description := ← Json.nullAs "" Json.string? (field "description")
    summary := ← Json.nullAs "" Json.string? (field "summary")
    iconUrl := ← Json.optional none (Json.nullable? Json.string?) (field "iconUrl")
    licenseUrl := ← Json.optional none (Json.nullable? Json.string?) (field "licenseUrl")
    projectUrl := ← Json.optional none (Json.nullable? Json.string?) (field "projectUrl")
    authors := ← Json.nullAs [] oneOrMany? (field "authors")
    owners := ← Json.nullAs [] oneOrMany? (field "owners")
    totalDownloads := ← Json.nullAs 0 (Json.nat? 64) (field "totalDownloads")
    verified := ← Json.nullAs false Json.bool? (field "verified") }

theorem ofJson?_eq (j : Json) : ofJson? j = (j.fields? fieldNames).bind ofFields? := rfl

theorem optional_nullable?_eq (read? : Json → Option α) (field : Option Json) :
    Json.optional none (Json.nullable? read?) field =
      Json.nullAs none (fun j => (read? j).map some) field := by
  cases field with
  | none => rfl
  | some j => cases j <;> rfl

section Types

def IsText (j : Json) : Prop := ∃ text, j = .string text

def AreTexts (j : Json) : Prop := IsText j ∨ ∃ texts : List String, j = .array (texts.map .string)

/-- A whole number of 64 bits without a sign. -/
def IsCount (j : Json) : Prop := ∃ n, n < twoTo 64 ∧ j = Json.ofNat n

def IsFlag (j : Json) : Prop := ∃ b, j = .bool b

def fieldTypes : List (String × (Json → Prop)) := [
  ("id", IsText), ("version", IsText), ("title", IsText), ("description", IsText),
  ("summary", IsText), ("iconUrl", IsText), ("licenseUrl", IsText), ("projectUrl", IsText),
  ("authors", AreTexts), ("owners", AreTexts), ("totalDownloads", IsCount), ("verified", IsFlag)]

example : fieldTypes.map (·.1) = fieldNames := rfl

theorem isSome_string?_iff (j : Json) : j.string?.isSome = true ↔ IsText j := by
  cases j with
  | string text => exact ⟨fun _ => ⟨text, rfl⟩, fun _ => rfl⟩
  | _ => exact ⟨nofun, nofun⟩

theorem isSome_link?_iff (j : Json) : (j.string?.map some).isSome = true ↔ IsText j := by
  rw [Option.isSome_map, isSome_string?_iff]

theorem isSome_bool?_iff (j : Json) : j.bool?.isSome = true ↔ IsFlag j := by
  cases j with
  | bool b => exact ⟨fun _ => ⟨b, rfl⟩, fun _ => rfl⟩
  | _ => exact ⟨nofun, nofun⟩

theorem isSome_nat?_iff (j : Json) : (j.nat? 64).isSome = true ↔ IsCount j := by
  constructor
  · intro h
    obtain ⟨n, hn⟩ := Option.isSome_iff_exists.1 h
    match j, hn with
    | .number (.integer (.ofNat m)), hn =>
      obtain ⟨hlt, -⟩ := Option.ite_none_right_eq_some.1 hn
      exact ⟨m, hlt, rfl⟩
  · rintro ⟨n, hlt, rfl⟩
    have hread : (Json.ofNat n).nat? 64 = some n := if_pos hlt
    rw [hread, Option.isSome_some]

theorem mapM_string?_eq_some_iff {items : List Json} {texts : List String} :
    items.mapM Json.string? = some texts ↔ items = texts.map .string := by
  constructor
  · intro h
    induction items generalizing texts with
    | nil =>
      cases h
      rfl
    | cons item items ih =>
      obtain ⟨text, texts, htext, htexts, rfl⟩ := Json.exists_of_mapM_cons h
      obtain ⟨_, rfl⟩ := (isSome_string?_iff item).1 (Option.isSome_iff_exists.2 ⟨_, htext⟩)
      cases htext
      rw [ih htexts, List.map_cons]
  · rintro rfl
    induction texts with
    | nil => rfl
    | cons text texts ih =>
      rw [List.map_cons, List.mapM_cons, ih]
      rfl

theorem isSome_oneOrMany?_iff (j : Json) : (oneOrMany? j).isSome = true ↔ AreTexts j := by
  cases j with
  | string text => exact ⟨fun _ => .inl ⟨text, rfl⟩, fun _ => rfl⟩
  | array items =>
    rw [oneOrMany?, Json.list?, Option.isSome_iff_exists]
    · constructor
      · rintro ⟨texts, htexts⟩
        exact .inr ⟨texts, congrArg Json.array (mapM_string?_eq_some_iff.1 htexts)⟩
      · rintro (⟨_, h⟩ | ⟨texts, h⟩)
        · cases h
        · exact ⟨texts, mapM_string?_eq_some_iff.2 (Json.array.inj h)⟩
    · nofun
  | _ => exact ⟨nofun, nofun⟩

/-- The decoder decides on the type of a field; null and absence are of every type. -/
theorem isSome_nullAs_iff {read? : Json → Option α} {IsTyped : Json → Prop}
    (h : ∀ j, (read? j).isSome = true ↔ IsTyped j) (absent : α) (field : Option Json) :
    (Json.nullAs absent read? field).isSome = true ↔
      ∀ j, field = some j → j ≠ .null → IsTyped j := by
  cases field with
  | none => exact ⟨fun _ => nofun, fun _ => rfl⟩
  | some j =>
    have hsome : (∀ k, some j = some k → k ≠ .null → IsTyped k) ↔ (j ≠ .null → IsTyped j) :=
      ⟨fun hk => hk j rfl, fun hj k hk => Option.some.inj hk ▸ hj⟩
    rw [hsome, ← h j]
    cases j with
    | null => exact ⟨fun _ hne => absurd rfl hne, fun _ => rfl⟩
    | _ => exact ⟨fun hj _ => hj, fun hj => hj nofun⟩

theorem isSome_ofFields?_iff (field : String → Option Json) :
    (ofFields? field).isSome = true ↔
      ∀ type ∈ fieldTypes, ∀ j, field type.1 = some j → j ≠ .null → type.2 j := by
  have htext := isSome_nullAs_iff isSome_string?_iff ""
  have hlink := isSome_nullAs_iff isSome_link?_iff none
  have htexts := isSome_nullAs_iff isSome_oneOrMany?_iff []
  have hcount := isSome_nullAs_iff isSome_nat?_iff 0
  have hflag := isSome_nullAs_iff isSome_bool?_iff false
  -- No field is read in the light of another, so that each has to be readable by itself.
  simp only [ofFields?, optional_nullable?_eq, Option.bind_eq_bind, Option.isSome_bind,
    Option.any_eq_true, Option.pure_def, Option.isSome_some, and_true, exists_and_right,
    ← Option.isSome_iff_exists, htext, hlink, htexts, hcount, hflag, fieldTypes,
    List.forall_mem_cons, List.not_mem_nil, false_implies, implies_true]

theorem ofFields?_eq_none_iff (field : String → Option Json) :
    ofFields? field = none ↔
      ∃ type ∈ fieldTypes, ∃ j, field type.1 = some j ∧ j ≠ .null ∧ ¬type.2 j := by
  rw [← Option.isNone_iff_eq_none, ← Option.isSome_eq_false_iff, ← Bool.not_eq_true,
    isSome_ofFields?_iff]
  simp only [not_forall, exists_prop]

end Types

section Edits

variable {members members' : List (String × Json)} {name : String}

def listNames : List String := ["authors", "owners"]

/-- The first value of a field counts as the second one. -/
inductive CountsAs (name : String) : Option Json → Option Json → Prop
  | same (field : Option Json) : CountsAs name field field
  | kept (j : Json) : CountsAs name (some j.distinct) (some j)
  | null : CountsAs name (some .null) none
  | one (text : String) : name ∈ listNames →
      CountsAs name (some (.string text)) (some (.array [.string text]))

theorem mapM_string?_distinctItems (items : List Json) :
    (Json.distinctItems items).mapM Json.string? = items.mapM Json.string? := by
  induction items with
  | nil => rfl
  | cons item items ih =>
    rw [Json.distinctItems, List.mapM_cons, List.mapM_cons, ih]
    cases item <;> rfl

theorem oneOrMany?_distinct (j : Json) : oneOrMany? j.distinct = oneOrMany? j := by
  cases j with
  | array items => exact mapM_string?_distinctItems items
  | _ => rfl

theorem CountsAs.nullAs_eq {read? : Json → Option α} {field field' : Option Json}
    (h : CountsAs name field field') (hkept : ∀ j, read? j.distinct = read? j)
    (hone : name ∈ listNames → ∀ text, read? (.string text) = read? (.array [.string text]))
    (absent : α) : Json.nullAs absent read? field = Json.nullAs absent read? field' := by
  cases h with
  | same => rfl
  | null => rfl
  | one text hname => exact hone hname text
  | kept j =>
    cases j with
    | null => rfl
    | _ => exact hkept _

theorem ofFields?_congr {field field' : String → Option Json}
    (h : ∀ name ∈ fieldNames, CountsAs name (field name) (field' name)) :
    ofFields? field = ofFields? field' := by
  -- A decoder of one text would tell the list from the text: its field must not be a list.
  have hstring (j : Json) : j.distinct.string? = j.string? := by cases j <;> rfl
  have hnat (j : Json) : j.distinct.nat? 64 = j.nat? 64 := by cases j <;> rfl
  have hbool (j : Json) : j.distinct.bool? = j.bool? := by cases j <;> rfl
  have htext (name) (hname : name ∈ fieldNames) (hlist : name ∉ listNames) :=
    (h name hname).nullAs_eq hstring (absurd · hlist) ""
  have hlink (name) (hname : name ∈ fieldNames) (hlist : name ∉ listNames) :
      Json.nullAs none (fun j => j.string?.map some) (field name) =
        Json.nullAs none (fun j => j.string?.map some) (field' name) :=
    (h name hname).nullAs_eq (fun j => congrArg (Option.map some) (hstring j)) (absurd · hlist) none
  have htexts (name) (hname : name ∈ fieldNames) :=
    (h name hname).nullAs_eq oneOrMany?_distinct (fun _ _ => rfl) []
  have hcount (name) (hname : name ∈ fieldNames) (hlist : name ∉ listNames) :=
    (h name hname).nullAs_eq hnat (absurd · hlist) 0
  have hflag (name) (hname : name ∈ fieldNames) (hlist : name ∉ listNames) :=
    (h name hname).nullAs_eq hbool (absurd · hlist) false
  simp (disch := decide) only [ofFields?, optional_nullable?_eq, htext, hlink, htexts, hcount,
    hflag]

/-- An entry is read by the last member of each field's name. -/
theorem ofItem?_object (h : (Json.object members).isReadable = true) :
    ofItem? (.object members) = ofFields? (member? members) := by
  have hkept : (Json.object members).value? = some (.object (Json.distinctMembers members)) :=
    Json.value?_eq_some_iff.2 ⟨h, rfl⟩
  have hfields := Json.fields?_object_eq_some_iff.2
    ⟨Json.areOnce_distinctMembers fieldNames members, rfl⟩
  rw [ofItem?, hkept, Option.bind_some, ofJson?_eq, hfields, Option.bind_some]
  refine ofFields?_congr fun name _ => ?_
  rw [Json.member?_distinctMembers]
  cases member? members name with
  | none => exact .same _
  | some j => exact .kept j

theorem ofItem?_congr (h : (Json.object members).isReadable = true)
    (h' : (Json.object members').isReadable = true)
    (hfields : ∀ name ∈ fieldNames, CountsAs name (member? members name) (member? members' name)) :
    ofItem? (.object members) = ofItem? (.object members') := by
  rw [ofItem?_object h, ofItem?_object h', ofFields?_congr hfields]

/-- One of the fields is neither null nor of its type, and its name is not among these. -/
def IsSpoilt (names : List String) (members : List (String × Json)) : Prop :=
  ∃ type ∈ fieldTypes, type.1 ∉ names ∧
    ∃ j, member? members type.1 = some j ∧ j ≠ .null ∧ ¬type.2 j

theorem ofItem?_eq_none_iff (h : (Json.object members).isReadable = true) :
    ofItem? (.object members) = none ↔ IsSpoilt [] members := by
  rw [ofItem?_object h, ofFields?_eq_none_iff]
  simp only [IsSpoilt, List.not_mem_nil, not_false_eq_true, true_and]

theorem isSpoilt_iff_of_puts {names : List String} (h : Puts names none members members') :
    IsSpoilt [] members' ↔ IsSpoilt names members := by
  have hfield (name : String) (j : Json) :
      member? members' name = some j ↔ name ∉ names ∧ member? members name = some j := by
    rw [h name]
    by_cases hname : name ∈ names <;> simp [hname]
  simp only [IsSpoilt, hfield, List.not_mem_nil, not_false_eq_true, true_and, and_assoc,
    exists_and_left]

end Edits

variable {members : List (String × Json)}

/-- Every field of an entry may be null or absent, with the same candidate, and a list of one text
may be that text. Members under other names do not count. An entry forms no candidate only if one
of its fields has a value of another type. -/
theorem fields_tolerant (h : (Json.object members).isReadable = true) :
    (ofItem? (.object members) = none ↔ IsSpoilt [] members) ∧
    (∀ names nulled removed,
      (Json.object nulled).isReadable = true → (Json.object removed).isReadable = true →
      Puts names (some .null) members nulled → Puts names none members removed →
        ofItem? (.object nulled) = ofItem? (.object removed) ∧
        (ofItem? (.object removed) = none ↔ IsSpoilt names members)) ∧
    (∀ members', (Json.object members').isReadable = true →
      (∀ name ∈ fieldNames, member? members' name = member? members name) →
        ofItem? (.object members') = ofItem? (.object members)) ∧
    ∀ name ∈ ["authors", "owners"], ∀ text members', (Json.object members').isReadable = true →
      member? members name = some (.string text) →
      Puts [name] (some (.array [.string text])) members members' →
        ofItem? (.object members') = ofItem? (.object members) := by
  refine ⟨ofItem?_eq_none_iff h, fun names nulled removed hn hr hnulled hremoved => ⟨?_, ?_⟩,
    fun members' h' hfields => ?_, fun name hname text members' h' htext hputs => ?_⟩
  · refine ofItem?_congr hn hr fun name _ => ?_
    rw [hnulled name, hremoved name]
    by_cases hname : name ∈ names
    · rw [if_pos hname, if_pos hname]
      exact .null
    · rw [if_neg hname, if_neg hname]
      exact .same _
  · rw [ofItem?_eq_none_iff hr, isSpoilt_iff_of_puts hremoved]
  · refine ofItem?_congr h' h fun name hname => ?_
    rw [hfields name hname]
    exact .same _
  · refine (ofItem?_congr h h' fun other _ => ?_).symm
    rw [hputs other]
    by_cases hother : other = name
    · rw [hother, if_pos List.mem_cons_self, htext]
      exact .one text hname
    · rw [if_neg fun hmem => hother (List.mem_singleton.1 hmem)]
      exact .same _

/-- An entry spoilt by one of its fields forms a candidate without it. -/
theorem fields_tolerant_mixed :
    let members : List (String × Json) := [("id", .string "Dapper"), ("verified", .string "yes"),
      ("tags", .array [.null]), ("owners", .string "dapper")]
    let names := ["verified", "title"]
    let removed := put names none members
    let listed := put ["owners"] (some (.array [.string "dapper"])) removed
    ofItem? (.object members) = none ∧
      ofItem? (.object (put names (some .null) members)) = ofItem? (.object removed) ∧
      ofItem? (.object removed) = some { id := "Dapper", owners := ["dapper"] } ∧
      ofItem? (.object listed) = ofItem? (.object removed) ∧
      ofItem? (.object (("tags", .null) :: listed)) = ofItem? (.object listed) := by
  intro members names removed listed
  have hmembers : (Json.object members).isReadable = true := by decide
  have hremoved : (Json.object removed).isReadable = true := by decide
  have hlisted : (Json.object listed).isReadable = true := by decide
  obtain ⟨hspoilt, hnull, -, -⟩ := fields_tolerant hmembers
  obtain ⟨-, -, -, hone⟩ := fields_tolerant hremoved
  obtain ⟨-, -, hothers, -⟩ := fields_tolerant hlisted
  refine ⟨hspoilt.2 ?_, ?_, by decide +kernel, ?_, ?_⟩
  · refine ⟨("verified", IsFlag), by simp [fieldTypes], nofun, .string "yes", rfl, nofun, nofun⟩
  · exact (hnull names _ removed (by decide) hremoved (Json.puts_put _ _ _) (Json.puts_put _ _ _)).1
  · exact hone "owners" (by decide) "dapper" listed hlisted rfl (Json.puts_put _ _ _)
  · refine hothers _ (by decide) fun name hname => ?_
    have hne : "tags" ≠ name := by
      rintro rfl
      exact absurd hname (by decide)
    exact Json.member?_cons_of_ne hne _ _

end Remedy.Registry.Candidate
