import Remedy.Configuration
import Remedy.Diagnostic.Action
import Remedy.Install
import Remedy.Proofs.Diagnostic.Code
import Remedy.Registry.Candidate

namespace Remedy

open Json

theorem isFieldForm_string : IsFieldForm (required string?) .string :=
  isFieldForm_required isNormalForm_string

theorem isFieldForm_text : IsFieldForm (nullAs "" string?) .string :=
  isFieldForm_nullAs isNormalForm_string nofun (k := .string "") rfl

theorem isFieldForm_optionalText :
    IsFieldForm (optional none (nullable? string?)) (ofOption .string) :=
  isFieldForm_optional (isNormalForm_nullable isNormalForm_string nofun) (k := .null) rfl

theorem Position.isNormalForm : IsNormalForm ofJson? toJson := by
  have hnat := isFieldForm_required (isNormalForm_nat 32)
  refine isNormalForm_record (by decide) (fun _ => rfl) fun h => ?_
  simp only [Option.bind_eq_bind, Option.bind_eq_some_iff] at h
  obtain ⟨line, hline, character, hcharacter, h⟩ := h
  cases h
  simp only [List.forall_mem_cons, Option.bind_eq_bind, Option.bind_eq_some_iff]
  exact ⟨⟨hnat.isKept hline, hnat.isKept hcharacter, nofun⟩,
    _, hnat.read?_encode hline, _, hnat.read?_encode hcharacter, rfl⟩

theorem Range.isNormalForm : IsNormalForm ofJson? toJson := by
  have hposition := isFieldForm_required Position.isNormalForm
  refine isNormalForm_record (by decide) (fun _ => rfl) fun h => ?_
  simp only [Option.bind_eq_bind, Option.bind_eq_some_iff] at h
  obtain ⟨start, hstart, stop, hstop, h⟩ := h
  cases h
  simp only [List.forall_mem_cons, Option.bind_eq_bind, Option.bind_eq_some_iff]
  exact ⟨⟨hposition.isKept hstart, hposition.isKept hstop, nofun⟩,
    _, hposition.read?_encode hstart, _, hposition.read?_encode hstop, rfl⟩

theorem Diagnostic.isNormalForm : IsNormalForm ofJson? toJson := by
  have hcode : IsFieldForm (optional .absent Code.ofJson?) Code.toJson :=
    isFieldForm_optional Code.isNormalForm (k := .null) rfl
  have hrange : IsFieldForm (optional {} Range.ofJson?) Range.toJson :=
    isFieldForm_optional Range.isNormalForm (k := Range.toJson {}) rfl
  refine isNormalForm_record (by decide) (fun _ => rfl) fun h => ?_
  simp only [Option.bind_eq_bind, Option.bind_eq_some_iff] at h
  obtain ⟨code, hc, message, hm, range, hr, source, hs, h⟩ := h
  cases h
  simp only [List.forall_mem_cons, Option.bind_eq_bind, Option.bind_eq_some_iff]
  exact ⟨⟨hcode.isKept hc, isFieldForm_text.isKept hm, hrange.isKept hr,
      isFieldForm_optionalText.isKept hs, nofun⟩,
    _, hcode.read?_encode hc, _, isFieldForm_text.read?_encode hm, _, hrange.read?_encode hr,
    _, isFieldForm_optionalText.read?_encode hs, rfl⟩

theorem CommandRef.isNormalForm : IsNormalForm ofJson? toJson := by
  have harguments : IsFieldForm (optional [] (list? value?)) fun js => .array (js.map id) :=
    isFieldForm_optional (isNormalForm_list isNormalForm_value) (k := .array []) rfl
  simp only [List.map_id_fun, id] at harguments
  refine isNormalForm_record (by decide) (fun _ => rfl) fun h => ?_
  simp only [Option.bind_eq_bind, Option.bind_eq_some_iff] at h
  obtain ⟨command, hc, title, ht, arguments, ha, h⟩ := h
  cases h
  simp only [List.forall_mem_cons, Option.bind_eq_bind, Option.bind_eq_some_iff]
  exact ⟨⟨isFieldForm_string.isKept hc, isFieldForm_string.isKept ht, harguments.isKept ha, nofun⟩,
    _, isFieldForm_string.read?_encode hc, _, isFieldForm_string.read?_encode ht,
    _, harguments.read?_encode ha, rfl⟩

theorem ActionKind.isNormalForm : IsNormalForm ofJson? toJson :=
  .of (fun _ => rfl) fun {_ kind} _ => by cases kind; rfl

theorem CodeAction.isNormalForm : IsNormalForm ofJson? toJson := by
  have hkind := isFieldForm_required ActionKind.isNormalForm
  have hcommand := isFieldForm_required CommandRef.isNormalForm
  have hrange := isFieldForm_required Range.isNormalForm
  refine isNormalForm_record (by decide) (fun _ => rfl) fun h => ?_
  simp only [Option.bind_eq_bind, Option.bind_eq_some_iff] at h
  obtain ⟨title, ht, kind, hk, command, hc, range, hr, h⟩ := h
  cases h
  simp only [List.forall_mem_cons, Option.bind_eq_bind, Option.bind_eq_some_iff]
  exact ⟨⟨isFieldForm_string.isKept ht, hkind.isKept hk, hcommand.isKept hc, hrange.isKept hr,
      nofun⟩,
    _, isFieldForm_string.read?_encode ht, _, hkind.read?_encode hk, _, hcommand.read?_encode hc,
    _, hrange.read?_encode hr, rfl⟩

theorem ManifestPath.isNormalForm : IsNormalForm ofJson? toJson := by
  refine .of (fun _ => rfl) fun {_ m} _ => ?_
  have hof : ofString m.text = .ok m := dif_pos m.admissible
  rw [ofJson?, toJson, string?, Option.bind_eq_bind, Option.bind_some, hof]
  rfl

theorem Task.isNormalForm : IsNormalForm ofJson? toJson := by
  refine isNormalForm_record (by decide) (fun _ => rfl) fun h => ?_
  simp only [Option.bind_eq_bind, Option.bind_eq_some_iff] at h
  obtain ⟨name, hn, source, hs, line, hl, h⟩ := h
  cases h
  simp only [List.forall_mem_cons, Option.bind_eq_bind, Option.bind_eq_some_iff]
  exact ⟨⟨isFieldForm_string.isKept hn, isFieldForm_string.isKept hs, isFieldForm_string.isKept hl,
      nofun⟩,
    _, isFieldForm_string.read?_encode hn, _, isFieldForm_string.read?_encode hs,
    _, isFieldForm_string.read?_encode hl, rfl⟩

theorem InstallCommand.isNormalForm : IsNormalForm ofJson? toJson := by
  have hmanifest := isFieldForm_required ManifestPath.isNormalForm
  refine isNormalForm_record (by decide) (fun _ => rfl) fun h => ?_
  simp only [Option.bind_eq_bind, Option.bind_eq_some_iff] at h
  obtain ⟨packageId, hi, project, hp, line, hl, h⟩ := h
  cases h
  simp only [List.forall_mem_cons, Option.bind_eq_bind, Option.bind_eq_some_iff]
  exact ⟨⟨isFieldForm_string.isKept hi, hmanifest.isKept hp, isFieldForm_string.isKept hl, nofun⟩,
    _, isFieldForm_string.read?_encode hi, _, hmanifest.read?_encode hp,
    _, isFieldForm_string.read?_encode hl, rfl⟩

namespace Registry

theorem Settings.isNormalForm : IsNormalForm ofJson? toJson := by
  have hnat := isFieldForm_required (isNormalForm_nat 64)
  refine isNormalForm_record (by decide) (fun _ => rfl) fun h => ?_
  simp only [Option.bind_eq_bind, Option.bind_eq_some_iff] at h
  obtain ⟨url, hu, cap, hc, agent, ha, timeout, ht, h⟩ := h
  cases h
  simp only [List.forall_mem_cons, Option.bind_eq_bind, Option.bind_eq_some_iff]
  exact ⟨⟨isFieldForm_string.isKept hu, hnat.isKept hc, isFieldForm_string.isKept ha,
      hnat.isKept ht, nofun⟩,
    _, isFieldForm_string.read?_encode hu, _, hnat.read?_encode hc,
    _, isFieldForm_string.read?_encode ha, _, hnat.read?_encode ht, rfl⟩

theorem isNormalForm_oneOrMany :
    IsNormalForm Candidate.oneOrMany? fun texts => .array (texts.map .string) := by
  have hlist := isNormalForm_list isNormalForm_string
  have hdecoded {j : Json} {texts : List String} (h : Candidate.oneOrMany? j = some texts) :
      list? string? (.array (texts.map .string)) = some texts := by
    cases j with
    | string text =>
      cases h
      rfl
    | array items => exact hlist.decode?_encode (j := .array items) h
    | _ => cases h
  exact .of (fun h => hlist.isKept (hdecoded h)) hdecoded

theorem Candidate.isNormalForm : IsNormalForm ofJson? toJson := by
  have htext := isFieldForm_text
  have hoptional := isFieldForm_optionalText
  have htexts : IsFieldForm (nullAs [] oneOrMany?) fun texts => .array (texts.map .string) :=
    isFieldForm_nullAs isNormalForm_oneOrMany nofun (k := .array []) rfl
  have hnat : IsFieldForm (nullAs 0 (nat? 64)) ofNat :=
    isFieldForm_nullAs (isNormalForm_nat 64) nofun (k := ofNat 0) rfl
  have hbool : IsFieldForm (nullAs false bool?) .bool :=
    isFieldForm_nullAs isNormalForm_bool nofun (k := .bool false) rfl
  refine isNormalForm_record (by decide) (fun _ => rfl) fun h => ?_
  simp only [Option.bind_eq_bind, Option.bind_eq_some_iff] at h
  obtain ⟨id, hi, version, hv, title, ht, description, hd, summary, hs, icon, hicon, license,
    hlicense, url, hurl, authors, ha, owners, ho, downloads, hn, verified, hb, h⟩ := h
  cases h
  simp only [List.forall_mem_cons, Option.bind_eq_bind, Option.bind_eq_some_iff]
  exact ⟨⟨htext.isKept hi, htext.isKept hv, htext.isKept ht, htext.isKept hd, htext.isKept hs,
      hoptional.isKept hicon, hoptional.isKept hlicense, hoptional.isKept hurl, htexts.isKept ha,
      htexts.isKept ho, hnat.isKept hn, hbool.isKept hb, nofun⟩,
    _, htext.read?_encode hi, _, htext.read?_encode hv, _, htext.read?_encode ht,
    _, htext.read?_encode hd, _, htext.read?_encode hs, _, hoptional.read?_encode hicon,
    _, hoptional.read?_encode hlicense, _, hoptional.read?_encode hurl,
    _, htexts.read?_encode ha, _, htexts.read?_encode ho, _, hnat.read?_encode hn,
    _, hbool.read?_encode hb, rfl⟩

end Registry

theorem Configuration.isNormalForm : IsNormalForm ofJson? toJson := by
  have hsettings := isFieldForm_required Registry.Settings.isNormalForm
  refine isNormalForm_record (by decide) (fun _ => rfl) fun h => ?_
  simp only [Option.bind_eq_bind, Option.bind_eq_some_iff] at h
  obtain ⟨language, hl, tool, ht, extension, he, search, hs, h⟩ := h
  cases h
  simp only [List.forall_mem_cons, Option.bind_eq_bind, Option.bind_eq_some_iff]
  exact ⟨⟨isFieldForm_string.isKept hl, isFieldForm_string.isKept ht, isFieldForm_string.isKept he,
      hsettings.isKept hs, nofun⟩,
    _, isFieldForm_string.read?_encode hl, _, isFieldForm_string.read?_encode ht,
    _, isFieldForm_string.read?_encode he, _, hsettings.read?_encode hs, rfl⟩

/-- Whatever a record was decoded from, with numbers or objects for codes, null or nothing for
fields, one text for many, or an array for the whole, it is encoded in a form from which the same
record is decoded. -/
theorem encodings_are_normal_forms :
    IsNormalForm Position.ofJson? Position.toJson ∧
      IsNormalForm Range.ofJson? Range.toJson ∧
      IsNormalForm Diagnostic.ofJson? Diagnostic.toJson ∧
      IsNormalForm CommandRef.ofJson? CommandRef.toJson ∧
      IsNormalForm CodeAction.ofJson? CodeAction.toJson ∧
      IsNormalForm ManifestPath.ofJson? ManifestPath.toJson ∧
      IsNormalForm InstallCommand.ofJson? InstallCommand.toJson ∧
      IsNormalForm Task.ofJson? Task.toJson ∧
      IsNormalForm Registry.Settings.ofJson? Registry.Settings.toJson ∧
      IsNormalForm Configuration.ofJson? Configuration.toJson ∧
      IsNormalForm Registry.Candidate.ofJson? Registry.Candidate.toJson :=
  ⟨Position.isNormalForm, Range.isNormalForm, Diagnostic.isNormalForm, CommandRef.isNormalForm,
    CodeAction.isNormalForm, ManifestPath.isNormalForm, InstallCommand.isNormalForm,
    Task.isNormalForm, Registry.Settings.isNormalForm, Configuration.isNormalForm,
    Registry.Candidate.isNormalForm⟩

-- a number for a code, null for a text, members under other names
example :
    Diagnostic.ofJson? (.object [("severity", .bool true), ("message", .null),
      ("code", .object [("target", .null), ("value", .number (.integer 246))])]) =
      some { code := .other "246" } := by decide +kernel

-- a shape that holds no code, and a range of arrays
example :
    Diagnostic.ofJson? (.object [("message", .string "m"), ("code", .array [.string "CS0246"]),
      ("range", .array [.array [ofNat 1, ofNat 2], .array [ofNat 1, ofNat 5]])]) =
      some { message := "m", range := ⟨⟨1, 2⟩, ⟨1, 5⟩⟩ } := by decide +kernel

example :
    Registry.Candidate.ofJson? (.object [("id", .string "Dapper"), ("title", .null),
      ("authors", .string "Sam"), ("owners", .null)]) =
      some { id := "Dapper", authors := ["Sam"] } := by decide +kernel

example : ActionKind.ofJson? (.object [("quickfix", .null)]) = some .quickFix := rfl

end Remedy
