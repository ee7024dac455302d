import Remedy.Install

namespace Remedy.Shell.Posix

/-- Wherever a word may begin, the text is read as the one word `word`. -/
def ReadsAs (text word : List Char) : Prop :=
  ∀ words, text.foldlM Reading.read? ⟨.plain, words, none⟩ = some ⟨.plain, words, some word⟩

theorem newline_not_active : isActive '\n' = false := by decide

theorem read?_escaped_active (hc : isActive c = true) (words : List (List Char)) (w : List Char) :
    Reading.read? ⟨.escaped, words, some w⟩ c = some ⟨.quoted, words, some (w ++ [c])⟩ := by
  have hn : c ≠ '\n' := by
    rintro rfl
    rw [newline_not_active] at hc
    cases hc
  simp [Reading.read?, Reading.extend, hn, hc]

theorem read?_quoted_inactive (hc : isActive c = false) (words : List (List Char))
    (w : List Char) :
    Reading.read? ⟨.quoted, words, some w⟩ c = some ⟨.quoted, words, some (w ++ [c])⟩ := by
  have hq : c ≠ '"' := by
    rintro rfl
    cases hc
  have hb : c ≠ '\\' := by
    rintro rfl
    cases hc
  simp [Reading.read?, Reading.extend, hq, hb, hc]

theorem read?_literal (hc : isLiteral c = true) (words : List (List Char))
    (w : Option (List Char)) :
    Reading.read? ⟨.plain, words, w⟩ c = some ⟨.plain, words, some (w.getD [] ++ [c])⟩ := by
  have hq : c ≠ '"' := by
    rintro rfl
    cases hc
  have hs : c ≠ ' ' := by
    rintro rfl
    cases hc
  simp [Reading.read?, Reading.extend, hq, hs, hc]

theorem read_escape (value : List Char) (words : List (List Char)) (w : List Char) :
    (escape value).foldlM Reading.read? ⟨.quoted, words, some w⟩ =
      some ⟨.quoted, words, some (w ++ value)⟩ := by
  induction value generalizing w with
  | nil => simp [escape]
  | cons c cs ih =>
    cases hc : isActive c with
    | true =>
      have hb : Reading.read? ⟨.quoted, words, some w⟩ '\\' = some ⟨.escaped, words, some w⟩ := rfl
      simp [escape, hc, hb, read?_escaped_active hc, ih]
    | false => simp [escape, hc, read?_quoted_inactive hc, ih]

theorem readsAs_quote (value : List Char) : ReadsAs (quote value) value := by
  intro words
  have ho : Reading.read? ⟨.plain, words, none⟩ '"' = some ⟨.quoted, words, some []⟩ := rfl
  have hc : Reading.read? ⟨.quoted, words, some value⟩ '"' = some ⟨.plain, words, some value⟩ :=
    rfl
  simp [quote, List.foldlM_append, ho, read_escape, hc]

theorem read_literals {cs : List Char} (h : ∀ c ∈ cs, isLiteral c = true)
    (words : List (List Char)) (w : List Char) :
    cs.foldlM Reading.read? ⟨.plain, words, some w⟩ = some ⟨.plain, words, some (w ++ cs)⟩ := by
  induction cs generalizing w with
  | nil => simp
  | cons c cs ih =>
    rw [List.forall_mem_cons] at h
    simp [read?_literal h.1, ih h.2]

theorem readsAs_literals {cs : List Char} (hne : cs ≠ []) (h : ∀ c ∈ cs, isLiteral c = true) :
    ReadsAs cs cs := by
  intro words
  cases cs with
  | nil => exact absurd rfl hne
  | cons c cs =>
    rw [List.forall_mem_cons] at h
    simp [read?_literal h.1, read_literals h.2]

theorem ReadsAs.read_space (h : ReadsAs text word) (words : List (List Char))
    (rest : List Char) :
    (text ++ ' ' :: rest).foldlM Reading.read? ⟨.plain, words, none⟩ =
      rest.foldlM Reading.read? ⟨.plain, words ++ [word], none⟩ := by
  have hs : Reading.read? ⟨.plain, words, some word⟩ ' ' =
      some ⟨.plain, words ++ [word], none⟩ := rfl
  simp [List.foldlM_append, h words, hs]

theorem read_spaced {texts : List (List Char × List Char)} (h : ∀ t ∈ texts, ReadsAs t.1 t.2)
    (words : List (List Char)) :
    ∃ r, ([' '].intercalate (texts.map (·.1))).foldlM Reading.read? ⟨.plain, words, none⟩ = some r ∧
      r.place = .plain ∧ r.allWords = words ++ texts.map (·.2) := by
  induction texts generalizing words with
  | nil => exact ⟨⟨.plain, words, none⟩, rfl, rfl, rfl⟩
  | cons t texts ih =>
    rw [List.forall_mem_cons] at h
    cases texts with
    | nil => exact ⟨⟨.plain, words, some t.2⟩, by simpa using h.1 words, rfl, rfl⟩
    | cons u texts =>
      obtain ⟨r, hr, hp, hw⟩ := ih h.2 (words ++ [t.2])
      refine ⟨r, ?_, hp, by simpa using hw⟩
      rw [← hr, ← h.1.read_space]
      simp [List.intercalate]

theorem words?_spaced {texts : List (List Char × List Char)} (h : ∀ t ∈ texts, ReadsAs t.1 t.2) :
    words? ([' '].intercalate (texts.map (·.1))) = some (texts.map (·.2)) := by
  obtain ⟨r, hr, hp, hw⟩ := read_spaced h []
  have hg : (guard (r.place = .plain) : Option Unit) = some () := if_pos hp
  rw [words?, hr, Option.bind_eq_bind, Option.bind_some, hg, hw]
  rfl

end Remedy.Shell.Posix

namespace Remedy.InstallCommand

open Shell

theorem isLiteral_of_isPlain (h : isPlain c = true) : Posix.isLiteral c = true := by
  simp only [isPlain, Bool.or_eq_true] at h
  rcases h with ((h | h) | h) | h <;> simp [Posix.isLiteral, h]

theorem readsAs_packageWord (packageId : String) :
    Posix.ReadsAs (packageWord .posix packageId).toList packageId.toList := by
  rw [packageWord]
  split
  · next h =>
    apply Posix.readsAs_literals
    · simpa using h.1
    · intro c hc
      exact isLiteral_of_isPlain (List.all_eq_true.1 h.2 c hc)
  · simpa [Flavor.quote, Flavor.quoteChars] using Posix.readsAs_quote packageId.toList

theorem toList_commandLine (flavor : Flavor) (tool packageId : String) (project : ManifestPath) :
    (forShell flavor tool packageId project).commandLine.toList =
      [' '].intercalate [tool.toList, "add".toList, flavor.quoteChars project.text.toList,
        "package".toList, (packageWord flavor packageId).toList] := by
  simp [forShell, Flavor.quote, List.intercalate, List.intersperse]

/-- The line is read as the tool and its four arguments. -/
theorem words?_commandLine {tool : String} (hne : tool ≠ "")
    (ht : ∀ c ∈ tool.toList, Posix.isLiteral c = true) (packageId : String)
    (project : ManifestPath) :
    Posix.words? (forShell .posix tool packageId project).commandLine.toList =
      some [tool.toList, "add".toList, project.text.toList, "package".toList,
        packageId.toList] := by
  rw [toList_commandLine]
  let texts : List (List Char × List Char) := [
    (tool.toList, tool.toList), ("add".toList, "add".toList),
    (Posix.quote project.text.toList, project.text.toList), ("package".toList, "package".toList),
    ((packageWord .posix packageId).toList, packageId.toList)]
  have h : ∀ t ∈ texts, Posix.ReadsAs t.1 t.2 := by
    simp only [texts, List.forall_mem_cons]
    refine ⟨?_, ?_, Posix.readsAs_quote _, ?_, readsAs_packageWord _, by simp⟩
    · exact Posix.readsAs_literals (by simpa using hne) ht
    · exact Posix.readsAs_literals (by decide) (List.all_eq_true.1 (by decide))
    · exact Posix.readsAs_literals (by decide) (List.all_eq_true.1 (by decide))
  exact Posix.words?_spaced h

/-- No package identifier and no project can end a word, begin an expansion or add a command: the
shell reads the tool and its four arguments, and the line tells them apart from all others. -/
theorem posix_commandLine_exact {tool : String} (hne : tool ≠ "")
    (ht : ∀ c ∈ tool.toList, Posix.isLiteral c = true) (packageId : String)
    (project : ManifestPath) :
    Posix.words? (forShell .posix tool packageId project).commandLine.toList =
        some [tool.toList, "add".toList, project.text.toList, "package".toList,
          packageId.toList] ∧
      ∀ (tool' packageId' : String) (project' : ManifestPath), tool' ≠ "" →
        (∀ c ∈ tool'.toList, Posix.isLiteral c = true) →
        (forShell .posix tool' packageId' project').commandLine =
          (forShell .posix tool packageId project).commandLine →
        tool' = tool ∧ project' = project ∧ packageId' = packageId := by
  have hw := words?_commandLine hne ht packageId project
  refine ⟨hw, ?_⟩
  intro tool' packageId' project' hne' ht' he
  have hw' := words?_commandLine hne' ht' packageId' project'
  rw [he, hw] at hw'
  simp only [Option.some.injEq, List.cons.injEq, String.toList_inj] at hw'
  obtain ⟨htool, -, hproject, -, hid, -⟩ := hw'
  exact ⟨htool.symm, (ManifestPath.eq_of_text_eq hproject).symm, hid.symm⟩

/-- A project under a directory that is named like a command and expansions, and an identifier that
would end its quotation. -/
theorem posix_commandLine_exact_hostile :
    Posix.words? (forShell .posix "./bin/dotnet-8" "a\"; rm $HOME\\\n\\"
        ⟨"My $(x) \x60y\x60/App.csproj", by decide⟩).commandLine.toList =
      some ["./bin/dotnet-8".toList, "add".toList, "My $(x) \x60y\x60/App.csproj".toList,
        "package".toList, "a\"; rm $HOME\\\n\\".toList] :=
  (posix_commandLine_exact (by decide) (List.all_eq_true.1 (by decide)) _ _).1

end Remedy.InstallCommand
