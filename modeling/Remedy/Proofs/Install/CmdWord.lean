import Remedy.Proofs.Install.PosixLine

namespace Remedy.Shell.Cmd

/-- The characters that the shell acts upon outside of quotes; a caret only hides the next one. -/
def isActive (c : Char) : Bool :=
  c == '&' || c == '|' || c == '<' || c == '>' || c == '(' || c == ')' || c == ' '

/-- A word from which the shell takes nothing but its characters. -/
structure Inert (word : List Char) : Prop where
  endsPlain : word.foldl Place.after .plain = .plain
  inactive : ∀ m ∈ marks .plain word, m.place = .plain → isActive m.char = false
  percent : ∀ front back, word = front ++ '%' :: back →
    front.foldl Place.after .plain = .escaped ∧ ['^'] <:+ front ∧ ['"'] <+: back
  /-- Variables are looked for before quotes are, but no name of one holds a quote. -/
  noVariable : ∀ name, '"' ∉ name → ¬ ('%' :: name ++ ['%'] <:+: word)

/-- Where a character of a value is met in the word that quotes it. -/
def placeIn (c : Char) : Place := if c = '%' then .escaped else .quoted

/-- A word that shows a value in quotes, and from which the value can be told. -/
structure Encloses (value word : List Char) : Prop where
  /-- What is met besides quotes is the value, all of it in quotes but the percent signs. -/
  read : (marks .plain word).filter (·.char ≠ '"') =
    (value.filter (· ≠ '"')).map fun c => ⟨c, placeIn c⟩
  unquoted : unquote? word = some value

def valueMarks (c : Char) : List Mark :=
  if c = '%' then [⟨'"', .quoted⟩, ⟨'%', .escaped⟩, ⟨'"', .plain⟩]
  else if c = '"' then [⟨'"', .quoted⟩, ⟨'"', .plain⟩]
  else [⟨c, .quoted⟩]

theorem escape_cons_of_ne (hp : c ≠ '%') (hq : c ≠ '"') (cs : List Char) :
    escape (c :: cs) = c :: escape cs := by
  rw [escape]
  · exact hp
  · exact hq

theorem marks_append (p : Place) (text rest : List Char) :
    marks p (text ++ rest) = marks p text ++ marks (text.foldl Place.after p) rest := by
  induction text generalizing p with
  | nil => rfl
  | cons c cs ih =>
    rw [List.cons_append, marks, marks, List.foldl_cons]
    split
    · next h =>
      obtain ⟨rfl, rfl⟩ := h
      exact ih .escaped
    · rw [ih, List.cons_append]

/-- An escaped value leaves the scan in quotes. -/
theorem foldl_after_escape (value : List Char) :
    (escape value).foldl Place.after .quoted = .quoted := by
  fun_induction escape value with
  | case1 => rfl
  | case2 cs ih => exact ih
  | case3 cs ih => exact ih
  | case4 c cs hp hq ih =>
    have hc : Place.after .quoted c = .quoted := if_neg hq
    rwa [List.foldl_cons, hc]

theorem foldl_after_quote (value : List Char) :
    (quote value).foldl Place.after .plain = .plain := by
  have ho : Place.after .plain '"' = .quoted := rfl
  rw [quote, List.cons_append, List.foldl_cons, ho, List.foldl_append, foldl_after_escape]
  rfl

theorem marks_escape (value : List Char) :
    marks .quoted (escape value) = value.flatMap valueMarks := by
  fun_induction escape value with
  | case1 => rfl
  | case2 cs ih =>
    rw [List.flatMap_cons, ← ih]
    rfl
  | case3 cs ih =>
    rw [List.flatMap_cons, ← ih]
    rfl
  | case4 c cs hp hq ih =>
    have hc : Place.after .quoted c = .quoted := if_neg hq
    rw [List.flatMap_cons, ← ih, marks, if_neg (by simp), hc, valueMarks, if_neg hp, if_neg hq]
    rfl

theorem marks_quote (value : List Char) :
    marks .plain (quote value) = ⟨'"', .plain⟩ :: value.flatMap valueMarks ++ [⟨'"', .quoted⟩] := by
  have ho : marks .plain (quote value) = ⟨'"', .plain⟩ :: marks .quoted (escape value ++ ['"']) :=
    rfl
  rw [ho, marks_append, foldl_after_escape, marks_escape]
  rfl

theorem filter_valueMarks (value : List Char) :
    (value.flatMap valueMarks).filter (·.char ≠ '"') =
      (value.filter (· ≠ '"')).map fun c => ⟨c, placeIn c⟩ := by
  induction value with
  | nil => rfl
  | cons c cs ih =>
    rw [List.flatMap_cons, List.filter_append, ih]
    by_cases hp : c = '%'
    · subst hp
      rfl
    · by_cases hq : c = '"'
      · subst hq
        rfl
      · simp [valueMarks, placeIn, hp, hq]

theorem unescape?_escape (value : List Char) : unescape? (escape value ++ ['"']) = some value := by
  fun_induction escape value with
  | case1 => rfl
  | case2 cs ih => simp [unescape?, ih]
  | case3 cs ih => simp [unescape?, ih]
  | case4 c cs hp hq ih =>
    have hne : ¬(c = '"' ∨ c = '%') := not_or.2 ⟨hq, hp⟩
    rw [List.cons_append, unescape?, if_neg hne, ih, Option.map_some]
    all_goals simp_all

theorem eq_escape_of_unescape? (h : unescape? cs = some value) : cs = escape value ++ ['"'] := by
  fun_induction unescape? cs generalizing value with
  | case1 =>
    cases h
    rfl
  | case2 cs ih =>
    obtain ⟨value, hvalue, rfl⟩ := Option.map_eq_some_iff.1 h
    rw [ih hvalue, escape]
    rfl
  | case3 cs ih =>
    obtain ⟨value, hvalue, rfl⟩ := Option.map_eq_some_iff.1 h
    rw [ih hvalue, escape]
    rfl
  | case4 => cases h
  | case5 c cs _ _ _ hne ih =>
    obtain ⟨hq, hp⟩ := not_or.1 hne
    obtain ⟨value, hvalue, rfl⟩ := Option.map_eq_some_iff.1 h
    rw [ih hvalue, escape_cons_of_ne hp hq, List.cons_append]
  | case6 => cases h

theorem unquote?_eq_some_iff : unquote? word = some value ↔ word = quote value := by
  constructor
  · intro h
    fun_cases unquote? word with
    | case1 cs => rw [quote, List.cons_append, ← eq_escape_of_unescape? h]
    | case2 => simp_all [unquote?]
  · rintro rfl
    exact unescape?_escape value

theorem exists_cons_of_ne {c d : α} (hne : c ≠ d) (h : c :: cs = front ++ d :: back) :
    ∃ tail, front = c :: tail ∧ cs = tail ++ d :: back := by
  obtain ⟨rfl, hc⟩ | hcons := List.cons_eq_append_iff.1 h
  · exact absurd (List.cons.inj hc).1.symm hne
  · exact hcons

theorem exists_of_escape_eq (h : escape value ++ ['"'] = front ++ '%' :: back) :
    ∃ before after, value = before ++ '%' :: after ∧ front = escape before ++ ['"', '^'] ∧
      back = '"' :: (escape after ++ ['"']) := by
  fun_induction escape value generalizing front with
  | case1 =>
    obtain ⟨tail, -, ht⟩ := exists_cons_of_ne (by decide) h
    simp at ht
  | case2 cs ih =>
    obtain ⟨front₁, rfl, h₁⟩ := exists_cons_of_ne (by decide) h
    obtain ⟨front₂, rfl, h₂⟩ := exists_cons_of_ne (by decide) h₁
    obtain ⟨rfl, hback⟩ | ⟨front₃, rfl, h₃⟩ := List.cons_eq_append_iff.1 h₂
    · exact ⟨[], cs, rfl, rfl, (List.cons.inj hback).2⟩
    · obtain ⟨front₄, rfl, h₄⟩ := exists_cons_of_ne (by decide) h₃
      obtain ⟨before, after, rfl, rfl, hback⟩ := ih h₄
      exact ⟨'%' :: before, after, rfl, rfl, hback⟩
  | case3 cs ih =>
    obtain ⟨front₁, rfl, h₁⟩ := exists_cons_of_ne (by decide) h
    obtain ⟨front₂, rfl, h₂⟩ := exists_cons_of_ne (by decide) h₁
    obtain ⟨before, after, rfl, rfl, hback⟩ := ih h₂
    exact ⟨'"' :: before, after, rfl, rfl, hback⟩
  | case4 c cs hp hq ih =>
    obtain ⟨front₁, rfl, h₁⟩ := exists_cons_of_ne hp h
    obtain ⟨before, after, rfl, rfl, hback⟩ := ih h₁
    exact ⟨c :: before, after, rfl, by rw [escape_cons_of_ne hp hq]; rfl, hback⟩

theorem percent_quote (h : quote value = front ++ '%' :: back) :
    front.foldl Place.after .plain = .escaped ∧ ['^'] <:+ front ∧ ['"'] <+: back := by
  obtain ⟨tail, rfl, htail⟩ := exists_cons_of_ne (by decide) h
  obtain ⟨before, after, -, rfl, rfl⟩ := exists_of_escape_eq htail
  have ho : Place.after .plain '"' = .quoted := rfl
  refine ⟨?_, ⟨'"' :: escape before ++ ['"'], by simp⟩, ⟨_, rfl⟩⟩
  rw [List.foldl_cons, ho, List.foldl_append, foldl_after_escape]
  rfl

/-- If a quote follows every percent sign, no name without a quote stands between two of them. -/
theorem not_infix_of_percent (h : ∀ front back, word = front ++ '%' :: back → ['"'] <+: back)
    (hname : '"' ∉ name) : ¬ ('%' :: name ++ ['%'] <:+: word) := by
  rintro ⟨front, back, rfl⟩
  have hquote := h front (name ++ '%' :: back) (by simp)
  cases name with
  | nil => exact absurd (List.cons_prefix_cons.1 hquote).1 (by decide)
  | cons c name =>
    obtain rfl : '"' = c := (List.cons_prefix_cons.1 hquote).1
    exact hname List.mem_cons_self

theorem encloses_quote (value : List Char) : Encloses value (quote value) := by
  refine ⟨?_, unquote?_eq_some_iff.2 rfl⟩
  rw [marks_quote, List.cons_append, List.filter_cons, List.filter_append, filter_valueMarks]
  simp

/-- Outside of quotes nothing is met but the quotes themselves. -/
theorem Encloses.char_eq (h : Encloses value word) (hm : m ∈ marks .plain word)
    (hp : m.place = .plain) : m.char = '"' := by
  by_cases hne : m.char = '"'
  · exact hne
  · have hread : m ∈ (marks .plain word).filter (·.char ≠ '"') :=
      List.mem_filter.2 ⟨hm, decide_eq_true hne⟩
    rw [h.read] at hread
    obtain ⟨c, -, rfl⟩ := List.mem_map.1 hread
    by_cases hc : c = '%' <;> simp [placeIn, hc] at hp

theorem inert_quote (value : List Char) : Inert (quote value) := by
  refine ⟨foldl_after_quote value, fun m hm hp => ?inactive, fun _ _ => percent_quote, fun _ =>
    not_infix_of_percent fun _ _ h => (percent_quote h).2.2⟩
  case inactive =>
    rw [(encloses_quote value).char_eq hm hp]
    decide

theorem scan_of_bare (h : ∀ c ∈ cs, c ≠ '"' ∧ c ≠ '^') :
    cs.foldl Place.after .plain = .plain ∧ marks .plain cs = cs.map (⟨·, .plain⟩) := by
  induction cs with
  | nil => exact ⟨rfl, rfl⟩
  | cons c cs ih =>
    obtain ⟨⟨hq, hc⟩, hcs⟩ := List.forall_mem_cons.1 h
    obtain ⟨hplace, hmarks⟩ := ih hcs
    have ha : Place.after .plain c = .plain := by simp [Place.after, hq, hc]
    refine ⟨by rwa [List.foldl_cons, ha], ?_⟩
    rw [marks, if_neg (fun he => hc he.2), ha, hmarks, List.map_cons]

end Remedy.Shell.Cmd

namespace Remedy.InstallCommand

open Shell

theorem isPlain_iff : isPlain c = true ↔
    ('A' ≤ c ∧ c ≤ 'Z') ∨ ('a' ≤ c ∧ c ≤ 'z') ∨ ('0' ≤ c ∧ c ≤ '9') ∨ c ∈ ['.', '_', '-'] := by
  have hranges : c.isAlphanum =
      (decide ('A'.val ≤ c.val ∧ c.val ≤ 'Z'.val) ||
        'a'.val ≤ c.val && c.val ≤ 'z'.val || '0'.val ≤ c.val && c.val ≤ '9'.val) := rfl
  simp only [isPlain, hranges, Bool.or_eq_true, Bool.and_eq_true, decide_eq_true_eq, beq_iff_eq,
    List.mem_cons, List.not_mem_nil, or_false, Char.le_def, or_assoc]

theorem ne_of_isPlain (h : isPlain c = true) (hd : isPlain d = false) : c ≠ d := by
  rintro rfl
  rw [h] at hd
  cases hd

theorem not_isActive_of_isPlain (h : isPlain c = true) : Cmd.isActive c = false := by
  rw [Bool.eq_false_iff]
  intro hc
  simp only [Cmd.isActive, Bool.or_eq_true, beq_iff_eq] at hc
  obtain (((((rfl | rfl) | rfl) | rfl) | rfl) | rfl) | rfl := hc <;> cases h

theorem inert_of_isPlain (h : ∀ c ∈ cs, isPlain c = true) : Cmd.Inert cs := by
  have hbare : ∀ c ∈ cs, c ≠ '"' ∧ c ≠ '^' := fun c hc =>
    ⟨ne_of_isPlain (h c hc) (by decide), ne_of_isPlain (h c hc) (by decide)⟩
  have hpercent : '%' ∉ cs := fun hm => ne_of_isPlain (h _ hm) (by decide) rfl
  obtain ⟨hplace, hmarks⟩ := Cmd.scan_of_bare hbare
  constructor
  case endsPlain => exact hplace
  case inactive =>
    intro m hm _
    rw [hmarks] at hm
    obtain ⟨c, hc, rfl⟩ := List.mem_map.1 hm
    exact not_isActive_of_isPlain (h c hc)
  case percent =>
    rintro front back rfl
    exact absurd (List.mem_append_right front List.mem_cons_self) hpercent
  case noVariable =>
    intro name _ hi
    exact hpercent (hi.subset (by simp))

theorem packageWord_cmd_cases (packageId : String) :
    packageWord .cmd packageId = Flavor.cmd.quote packageId ∨
      packageWord .cmd packageId = packageId ∧ packageId ≠ "" ∧
        ∀ c ∈ packageId.toList, isPlain c = true := by
  rw [packageWord]
  split
  · next h => exact .inr ⟨rfl, h.1, List.all_eq_true.1 h.2⟩
  · exact .inl rfl

theorem toList_quote_cmd (value : String) :
    (Flavor.cmd.quote value).toList = Cmd.quote value.toList :=
  String.toList_ofList

/-- A quoted value tells which value it quotes. -/
theorem quote_cmd_injective (h : Flavor.cmd.quote value = Flavor.cmd.quote value') :
    value = value' := by
  have hvalue := (Cmd.encloses_quote value.toList).unquoted
  have hvalue' := (Cmd.encloses_quote value'.toList).unquoted
  rw [← toList_quote_cmd] at hvalue hvalue'
  rw [h, hvalue'] at hvalue
  exact String.toList_inj.1 (Option.some.inj hvalue).symm

/-- A quoted word begins with a quote, which no plain identifier does. -/
theorem packageWord_cmd_injective {packageId packageId' : String}
    (h : packageWord .cmd packageId = packageWord .cmd packageId') : packageId = packageId' := by
  have hne {value : String} (hplain : ∀ c ∈ value.toList, isPlain c = true) (other : String) :
      Flavor.cmd.quote other ≠ value := by
    rintro rfl
    rw [toList_quote_cmd] at hplain
    exact absurd (hplain '"' List.mem_cons_self) (by decide)
  obtain hq | ⟨hb, -, hp⟩ := packageWord_cmd_cases packageId <;>
    obtain hq' | ⟨hb', -, hp'⟩ := packageWord_cmd_cases packageId'
  · exact quote_cmd_injective (hq.symm.trans (h.trans hq'))
  · exact absurd (hq.symm.trans (h.trans hb')) (hne hp' packageId)
  · exact absurd (hq'.symm.trans (h.symm.trans hb)) (hne hp packageId')
  · exact hb.symm.trans (h.trans hb')

/-- Neither the project nor the package of a command line can act upon the shell. Each is a word
that ends its quotation and in which no variable is named; it shows the value in quotes, from which
the value can be told, or is a plain identifier. -/
theorem cmd_words_inert (tool packageId : String) (project : ManifestPath) :
    (forShell .cmd tool packageId project).commandLine =
        tool ++ " add " ++ Flavor.cmd.quote project.text ++ " package " ++
          packageWord .cmd packageId ∧
      Cmd.Inert (Flavor.cmd.quote project.text).toList ∧
      Cmd.Inert (packageWord .cmd packageId).toList ∧
      Cmd.Encloses project.text.toList (Flavor.cmd.quote project.text).toList ∧
      (Cmd.Encloses packageId.toList (packageWord .cmd packageId).toList ∨
        packageWord .cmd packageId = packageId ∧ packageId ≠ "" ∧
          ∀ c ∈ packageId.toList, isPlain c = true) ∧
      (∀ value value', Flavor.cmd.quote value = Flavor.cmd.quote value' → value = value') ∧
      ∀ packageId', packageWord .cmd packageId = packageWord .cmd packageId' →
        packageId = packageId' := by
  have hproject := toList_quote_cmd project.text
  refine ⟨rfl, hproject ▸ Cmd.inert_quote _, ?package, hproject ▸ Cmd.encloses_quote _, ?id,
    fun _ _ => quote_cmd_injective, fun _ => packageWord_cmd_injective⟩
  case package =>
    obtain hq | ⟨hb, -, hplain⟩ := packageWord_cmd_cases packageId
    · rw [hq, toList_quote_cmd]
      exact Cmd.inert_quote _
    · rw [hb]
      exact inert_of_isPlain hplain
  case id =>
    refine (packageWord_cmd_cases packageId).imp_left fun hq => ?_
    rw [hq, toList_quote_cmd]
    exact Cmd.encloses_quote _

end Remedy.InstallCommand
