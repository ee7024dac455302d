import Remedy.Proofs.Json.Kept
import Remedy.Proofs.Json.Reading
import Remedy.Registry.Page

namespace Remedy.Json

/-- The members whose names can be read. -/
def named (members : List (Option String × Json)) : List (String × Json) :=
  members.filterMap fun (name, v) => name.map (·, v)

theorem objectOf_eq_object {members : List (Option String × Json)}
    (h : ∀ m ∈ members, m.1.isSome = true) : Reader.objectOf members = .object (named members) := by
  rw [Reader.objectOf, mapM_eq_some_iff.2 ⟨fun m hm => ?_, rfl⟩, named]
  rw [Option.isSome_map, h m hm]

theorem objectOf_eq_unreadable {members : List (Option String × Json)}
    (h : ¬∀ m ∈ members, m.1.isSome = true) : Reader.objectOf members = .unreadable := by
  have hnone : members.mapM (fun (name, v) => name.map (·, v)) = none := by
    refine Option.eq_none_iff_forall_ne_some.2 fun ms hms => h fun m hm => ?_
    have hm := (mapM_eq_some_iff.1 hms).1 m hm
    rwa [Option.isSome_map] at hm
  rw [Reader.objectOf, hnone]

end Remedy.Json

namespace Remedy.Registry

open Json (IsText member? named)

variable {members : List (String × Json)} {items : List Json} {body : Json.Reader.Input}

/-- The candidate that an entry offers, if it is one that can be installed. -/
def usable? (entry : Json) : Option Candidate :=
  (entry.value?.bind Candidate.ofJson?).filter Candidate.isUsable

/-- Neither of a page's own members is repeated. -/
def IsOnce (members : List (String × Json)) : Prop :=
  ∀ name ∈ ["totalHits", "data"], (members.filter (·.1 == name)).length ≤ 1

instance : Decidable (IsOnce members) :=
  inferInstanceAs (Decidable (∀ name ∈ ["totalHits", "data"], _))

/-- The number of hits is absent or fits 64 bits. -/
def HasHits (members : List (String × Json)) : Prop :=
  ∀ hits, member? members "totalHits" = some hits → (hits.nat? 64).isSome = true

theorem fields?_of_isOnce (h : IsOnce members) :
    (Json.object members).fields? ["totalHits", "data"] = some (member? members) :=
  if_pos (List.all_eq_true.2 fun name hname => decide_eq_true (h name hname))

theorem exists_hits_iff :
    (∃ n, Json.optional 0 (Json.nat? 64) (member? members "totalHits") = some n) ↔
      HasHits members := by
  rw [HasHits]
  cases member? members "totalHits" with
  | none => exact ⟨fun _ => nofun, fun _ => ⟨0, rfl⟩⟩
  | some hits => simp [Json.optional, Option.isSome_iff_exists]

theorem offered_filterMap_value? (hits : Nat) (items : List Json) (cap : Nat) :
    Page.offered ⟨hits, items.filterMap Json.value?⟩ cap =
      (items.filterMap usable?).take (clampCap cap) := by
  rw [Page.offered, Page.candidates, List.filterMap_filterMap, List.filter_filterMap]
  rfl

theorem ofJson?_object_eq_some_iff (honce : IsOnce members)
    (hdata : member? members "data" = some (.array items)) {page : Page} :
    Page.ofJson? (.object members) = some page ↔
      ∃ hits, Json.optional 0 (Json.nat? 64) (member? members "totalHits") = some hits ∧
        (∀ item ∈ items, item.isReadable = true) ∧ page = ⟨hits, items.filterMap Json.value?⟩ := by
  have hentries : Json.required (Json.list? Json.value?) (member? members "data") =
      items.mapM Json.value? := by
    rw [hdata]
    rfl
  simp only [Page.ofJson?, fields?_of_isOnce honce, hentries, Option.bind_eq_bind,
    Option.bind_some, Option.bind_eq_some_iff, Json.mapM_eq_some_iff, Json.value?_isSome_iff]
  constructor
  · rintro ⟨hits, hhits, entries, ⟨hreadable, rfl⟩, hpage⟩
    exact ⟨hits, hhits, hreadable, (Option.some.inj hpage).symm⟩
  · rintro ⟨hits, hhits, hreadable, rfl⟩
    exact ⟨hits, hhits, _, ⟨hreadable, rfl⟩, rfl⟩

/-- A page is lost only by a name, by its number of hits or by an entry with a part without a value.
Whatever else its members and entries are, the entries offer their candidates one by one. -/
theorem page_kept_iff (cap : Nat) {members : List (Option String × Json)}
    (hbody : IsText body (Json.Reader.objectOf members)) (honce : IsOnce (named members))
    (hdata : member? (named members) "data" = some (.array items)) (cs : List Candidate) :
    candidatesOfBody? cap body = some cs ↔
      (∀ m ∈ members, m.1.isSome = true) ∧ HasHits (named members) ∧
        (∀ item ∈ items, item.isReadable = true) ∧
        cs = (items.filterMap usable?).take (clampCap cap) := by
  have hread := Json.Reader.text?_of_isText hbody
  by_cases hnamed : ∀ m ∈ members, m.1.isSome = true
  · rw [Json.objectOf_eq_object hnamed] at hread
    simp only [candidatesOfBody?, hread, Option.bind_eq_bind, Option.bind_some,
      Option.bind_eq_some_iff, ofJson?_object_eq_some_iff honce hdata, ← exists_hits_iff]
    constructor
    · rintro ⟨page, ⟨hits, hhits, hreadable, rfl⟩, hcs⟩
      refine ⟨hnamed, ⟨hits, hhits⟩, hreadable, ?_⟩
      rw [← offered_filterMap_value? hits, Option.some.inj hcs]
    · rintro ⟨-, ⟨hits, hhits⟩, hreadable, rfl⟩
      refine ⟨_, ⟨hits, hhits, hreadable, rfl⟩, ?_⟩
      rw [offered_filterMap_value?]
      rfl
  · rw [Json.objectOf_eq_unreadable hnamed] at hread
    rw [candidatesOfBody?, hread]
    exact ⟨nofun, fun h => absurd h.1 hnamed⟩

def nullHits : Json.Reader.Input :=
  Json.Reader.ofString "\x7b\"totalHits\":null,\"data\":[\x7b\"id\":\"A\"\x7d]\x7d"

def plainEntry (name : String) (core : Json.Reader.Input) (value : Json) : Json.Entry :=
  ⟨[], name.toList.map some, name.toList.map fun c => .char (some c), [], ⟨[], core, [], value⟩⟩

theorem plainEntry_isSpelled (h : ∀ c ∈ name.toList, c ≠ '"' ∧ c ≠ '\\' ∧ ' ' ≤ c)
    (core : Json.Reader.Input) (value : Json) : (plainEntry name core value).IsSpelled :=
  ⟨nofun, Json.arePieces_map_char h, nofun, nofun, nofun⟩

theorem nullHits_isText : IsText nullHits (Json.Reader.objectOf
    [(some "totalHits", .null), (some "data", .array [.object [("id", .string "A")]])]) := by
  have hname : Json.ArePieces [some 'A'] [.char (some 'A')] :=
    Json.arePieces_map_char (by simp : ∀ c ∈ ['A'], c ≠ '"' ∧ c ≠ '\\' ∧ ' ' ≤ c)
  have hid : Json.IsValue 3 (Json.Reader.ofString "\"A\"") (.string "A") := .string hname
  have hentry : Json.IsValue 2 (Json.Reader.ofString "\x7b\"id\":\"A\"\x7d")
      (.object [("id", .string "A")]) :=
    .object [plainEntry "id" (Json.Reader.ofString "\"A\"") (.string "A")] nofun
      (List.forall_mem_singleton.2 (plainEntry_isSpelled (by simp) _ _))
      (List.forall_mem_singleton.2 hid)
  have hdata : Json.IsValue 1 (Json.Reader.ofString "[\x7b\"id\":\"A\"\x7d]")
      (.array [.object [("id", .string "A")]]) :=
    .array [⟨[], Json.Reader.ofString "\x7b\"id\":\"A\"\x7d", [], _⟩] nofun
      (List.forall_mem_singleton.2 ⟨nofun, nofun⟩) (List.forall_mem_singleton.2 hentry)
  refine ⟨[], nullHits, [], rfl, nofun, nofun, ?_⟩
  refine .object [plainEntry "totalHits" (Json.Reader.ofString "null") .null,
    plainEntry "data" (Json.Reader.ofString "[\x7b\"id\":\"A\"\x7d]")
      (.array [.object [("id", .string "A")]])] nofun ?_ ?_
  · exact List.forall_mem_cons.2 ⟨plainEntry_isSpelled (by simp) _ _,
      List.forall_mem_singleton.2 (plainEntry_isSpelled (by simp) _ _)⟩
  · exact List.forall_mem_cons.2 ⟨.keyword .null, List.forall_mem_singleton.2 hdata⟩

/-- The entry alone could be installed. -/
theorem page_lost_of_null_hits : candidatesOfBody? 5 nullHits = none ∧
    usable? (.object [("id", .string "A")]) = some { id := "A" } := by
  refine ⟨Option.eq_none_iff_forall_ne_some.2 fun cs hcs => ?_, by decide +kernel⟩
  obtain ⟨-, hhits, -⟩ := (page_kept_iff 5 nullHits_isText (by decide) rfl cs).1 hcs
  exact absurd (hhits .null rfl) (by decide)

end Remedy.Registry
