import Mathlib.Data.List.Chain
import Remedy.Proofs.Install.CmdWord

namespace Remedy.Shell.Cmd

/-- No backslash stands before a quote, which may be the one that ends the word, or a percent sign,
which a quote is put before. -/
def IsSteady (value : List Char) : Prop :=
  (value ++ ['"']).IsChain fun c d => c = '\\' → d ≠ '"' ∧ d ≠ '%'

instance : Decidable (IsSteady value) := inferInstanceAs (Decidable (List.IsChain _ _))

theorem isSteady_of_notMem (h : '\\' ∉ value) : IsSteady value := by
  refine List.isChain_iff_forall_rel_of_append_cons_cons.2 fun c d front back heq hc => ?_
  have hmem : c ∈ value ++ ['"'] := heq ▸ List.mem_append_right front List.mem_cons_self
  obtain hm | hm := List.mem_append.1 hmem
  · exact absurd (hc ▸ hm) h
  · exact absurd (hc.symm.trans (List.mem_singleton.1 hm)) (by decide)

theorem passed_append (h : text.foldl Place.after .plain = .plain) (rest : List Char) :
    passed (text ++ rest) = passed text ++ passed rest := by
  rw [passed, marks_append, h, List.map_append, passed, passed]

/-- What the shell hands on of a character of a value. -/
def handed (c : Char) : List Char := (valueMarks c).map (·.char)

theorem handed_of_ne (hp : c ≠ '%') (hq : c ≠ '"') : handed c = [c] := by
  rw [handed, valueMarks, if_neg hp, if_neg hq]
  rfl

theorem passed_quote (value : List Char) :
    passed (quote value) = '"' :: (value.flatMap handed ++ ['"']) := by
  rw [passed, marks_quote, List.cons_append, List.map_cons, List.map_append, List.map_flatMap]
  rfl

theorem passed_of_bare (h : ∀ c ∈ cs, c ≠ '"' ∧ c ≠ '^') : passed cs = cs := by
  rw [passed, (scan_of_bare h).2, List.map_map]
  exact List.map_id cs

theorem passed_spaced {texts : List (List Char)}
    (h : ∀ text ∈ texts, text.foldl Place.after .plain = .plain) :
    passed ([' '].intercalate texts) = [' '].intercalate (texts.map passed) := by
  induction texts with
  | nil => rfl
  | cons text texts ih =>
    obtain ⟨htext, htexts⟩ := List.forall_mem_cons.1 h
    cases texts with
    | nil => simp
    | cons next texts =>
      have hs : [' '].foldl Place.after .plain = .plain := rfl
      rw [List.map_cons, List.map_cons, List.intercalate_cons_cons, List.intercalate_cons_cons,
        List.append_assoc, passed_append htext, passed_append hs, ih htexts, List.append_assoc]
      rfl

namespace Reading

variable {r : Reading} {args : List (List Char)} {arg : List Char}

/-- The reading stands behind the argument `arg`, which a space or the end of the line ends. -/
structure Ends (r : Reading) (args : List (List Char)) (arg : List Char) : Prop where
  part : r.part ≠ .quoted
  arguments : r.arguments = args
  argument : r.settle.argument = some arg

theorem Ends.allArguments_eq (h : r.Ends args arg) : r.allArguments = args ++ [arg] := by
  rw [allArguments, h.argument, h.arguments]
  rfl

theorem readOpen_space (h : r.part = .bare) : r.readOpen ' ' = { arguments := r.allArguments } := by
  simp [readOpen, h]

def text (r : Reading) : List Char := r.argument.getD [] ++ List.replicate r.backslashes '\\'

theorem readOpen_of_ne (hb : c ≠ '\\') (hq : c ≠ '"') (hs : ¬(c = ' ' ∧ r.part = .bare)) :
    r.readOpen c = ⟨r.part, r.arguments, some (r.text ++ [c]), 0⟩ := by
  rw [readOpen, if_neg hb, if_neg hq, if_neg hs, settle, text]
  by_cases hn : r.backslashes = 0
  · simp [hn, extend]
  · simp [hn, extend]

theorem read_bare (hr : r.part = .bare) (hs : c ≠ ' ') (hq : c ≠ '"') :
    (r.read c).part = .bare ∧ (r.read c).arguments = r.arguments ∧
      (r.read c).text = r.text ++ [c] ∧ (r.read c).settle.argument = some (r.text ++ [c]) := by
  have hread : r.read c = r.readOpen c := if_neg (by simp [hr])
  rw [hread]
  by_cases hb : c = '\\'
  · subst hb
    have hopen : r.readOpen '\\' = { r with backslashes := r.backslashes + 1 } := if_pos rfl
    rw [hopen]
    refine ⟨hr, rfl, ?_, ?_⟩
    · simp [text, List.replicate_succ']
    · simp [settle, extend, text, List.replicate_succ']
  · rw [readOpen_of_ne hb hq (fun h => hs h.1)]
    exact ⟨hr, rfl, List.append_nil _, rfl⟩

theorem foldl_read_bare (h : ∀ c ∈ cs, c ≠ ' ' ∧ c ≠ '"') (hr : r.part = .bare) :
    (cs.foldl read r).part = .bare ∧ (cs.foldl read r).arguments = r.arguments ∧
      (cs.foldl read r).text = r.text ++ cs := by
  induction cs generalizing r with
  | nil => exact ⟨hr, rfl, (List.append_nil _).symm⟩
  | cons c cs ih =>
    obtain ⟨⟨hs, hq⟩, hcs⟩ := List.forall_mem_cons.1 h
    obtain ⟨hpart, hargs, htext, -⟩ := read_bare hr hs hq
    obtain ⟨hpart', hargs', htext'⟩ := ih hcs hpart
    refine ⟨hpart', hargs'.trans hargs, ?_⟩
    rw [List.foldl_cons, htext', htext, List.append_assoc, List.singleton_append]

theorem allArguments_part (r : Reading) (part : Part) :
    { r with part }.allArguments = r.allArguments := by
  rw [allArguments, allArguments, settle, settle]
  split <;> rfl

theorem Ends.read_space (h : r.Ends args arg) : r.read ' ' = { arguments := args ++ [arg] } := by
  rw [← h.allArguments_eq, read]
  cases hp : r.part with
  | bare => exact readOpen_space hp
  | quoted => exact absurd hp h.part
  | closing =>
    rw [if_pos rfl, if_neg (by decide), readOpen_space rfl, allArguments_part]

theorem readQuote_eq (part : Part) (args : List (List Char)) (arg : Option (List Char)) :
    readQuote ⟨part, args, arg, 0⟩ =
      ⟨if part = .quoted then .closing else .quoted, args, some (arg.getD []), 0⟩ := by
  simp [readQuote, extend]

theorem foldl_read_quote (args : List (List Char)) (arg : List Char) :
    (handed '"').foldl read ⟨.quoted, args, some arg, 0⟩ =
      ⟨.quoted, args, some (arg ++ ['"']), 0⟩ := by
  have hh : handed '"' = ['"', '"'] := rfl
  have hend : read ⟨.quoted, args, some arg, 0⟩ '"' = ⟨.closing, args, some arg, 0⟩ :=
    readQuote_eq .quoted args arg
  rw [hh, List.foldl_cons, hend]
  rfl

theorem foldl_read_percent (args : List (List Char)) (arg : List Char) :
    (handed '%').foldl read ⟨.quoted, args, some arg, 0⟩ =
      ⟨.quoted, args, some (arg ++ ['%']), 0⟩ := by
  have hh : handed '%' = ['"', '%', '"'] := rfl
  have hend : read ⟨.quoted, args, some arg, 0⟩ '"' = ⟨.closing, args, some arg, 0⟩ :=
    readQuote_eq .quoted args arg
  have hp : read ⟨.closing, args, some arg, 0⟩ '%' = ⟨.bare, args, some (arg ++ ['%']), 0⟩ := rfl
  have hopen : read ⟨.bare, args, some (arg ++ ['%']), 0⟩ '"' =
      ⟨.quoted, args, some (arg ++ ['%']), 0⟩ :=
    readQuote_eq .bare args (some (arg ++ ['%']))
  rw [hh, List.foldl_cons, hend, List.foldl_cons, hp, List.foldl_cons, hopen, List.foldl_nil]

end Reading

/-- Wherever an argument may begin, the text is read as the one argument `arg`. -/
def ReadsAs (text arg : List Char) : Prop :=
  ∀ args, (text.foldl Reading.read { arguments := args }).Ends args arg

theorem read_spaced {texts : List (List Char × List Char)} (h : ∀ t ∈ texts, ReadsAs t.1 t.2)
    (args : List (List Char)) :
    (([' '].intercalate (texts.map (·.1))).foldl Reading.read { arguments := args }).allArguments =
      args ++ texts.map (·.2) := by
  induction texts generalizing args with
  | nil => simp [Reading.allArguments, Reading.settle]
  | cons t texts ih =>
    obtain ⟨ht, htexts⟩ := List.forall_mem_cons.1 h
    cases texts with
    | nil => simpa using (ht args).allArguments_eq
    | cons u texts =>
      have hrest := ih htexts (args ++ [t.2])
      rw [List.map_cons, List.map_cons, List.intercalate_cons_cons, List.append_assoc,
        List.foldl_append, List.cons_append, List.foldl_cons, (ht args).read_space]
      simpa using hrest

theorem arguments_spaced {texts : List (List Char × List Char)}
    (h : ∀ t ∈ texts, ReadsAs t.1 t.2) :
    arguments ([' '].intercalate (texts.map (·.1))) = texts.map (·.2) :=
  (read_spaced h []).trans (List.nil_append _)

theorem readsAs_bare (hne : cs ≠ []) (h : ∀ c ∈ cs, c ≠ ' ' ∧ c ≠ '"') : ReadsAs cs cs := by
  intro args
  obtain ⟨front, c, rfl⟩ : ∃ front c, cs = front ++ [c] :=
    ⟨_, _, (List.dropLast_append_getLast hne).symm⟩
  obtain ⟨hfront, hc⟩ := List.forall_mem_append.1 h
  obtain ⟨hpart, hargs, htext⟩ :=
    Reading.foldl_read_bare (r := { arguments := args }) hfront rfl
  obtain ⟨hs, hq⟩ := hc c (List.mem_singleton_self c)
  obtain ⟨hpart', hargs', -, hsettle⟩ := Reading.read_bare hpart hs hq
  rw [List.foldl_append, List.foldl_cons, List.foldl_nil]
  exact ⟨by simp [hpart'], hargs'.trans hargs, by rw [hsettle, htext]; rfl⟩

/-- In quotes, a steady value is read as itself, and the quote behind it ends the quotation. -/
theorem foldl_read_handed (h : IsSteady value) (args : List (List Char)) (arg : List Char) (n : Nat)
    (hn : n = 0 ∨ ∀ c ∈ (value ++ ['"']).head?, c ≠ '"' ∧ c ≠ '%') :
    (value.flatMap handed ++ ['"']).foldl Reading.read ⟨.quoted, args, some arg, n⟩ =
      ⟨.closing, args, some (arg ++ List.replicate n '\\' ++ value), 0⟩ := by
  induction value generalizing arg n with
  | nil =>
    obtain rfl | hn := hn
    · simp [Reading.read, Reading.readOpen, Reading.readQuote, Reading.extend]
    · exact absurd rfl (hn '"' rfl).1
  | cons c cs ih =>
    obtain ⟨hc, hcs⟩ := List.isChain_cons.1 h
    rw [List.flatMap_cons, List.append_assoc, List.foldl_append]
    by_cases hb : c = '\\'
    · subst hb
      have hread : (handed '\\').foldl Reading.read ⟨.quoted, args, some arg, n⟩ =
        ⟨.quoted, args, some arg, n + 1⟩ := rfl
      rw [hread, ih hcs _ _ (.inr fun d hd => hc d hd rfl)]
      simp [List.replicate_succ']
    · have hn : c = '"' ∨ c = '%' → n = 0 := fun hor =>
        hn.resolve_right fun hn => hor.elim (hn c rfl).1 (hn c rfl).2
      by_cases hq : c = '"'
      · subst hq
        obtain rfl := hn (.inl rfl)
        rw [Reading.foldl_read_quote, ih hcs _ _ (.inl rfl)]
        simp
      · by_cases hp : c = '%'
        · subst hp
          obtain rfl := hn (.inr rfl)
          rw [Reading.foldl_read_percent, ih hcs _ _ (.inl rfl)]
          simp
        · have hread : Reading.read ⟨.quoted, args, some arg, n⟩ c =
              ⟨.quoted, args, some (arg ++ List.replicate n '\\' ++ [c]), 0⟩ :=
            Reading.readOpen_of_ne hb hq (by simp)
          rw [handed_of_ne hp hq, List.foldl_cons, List.foldl_nil, hread, ih hcs _ _ (.inl rfl)]
          simp

theorem readsAs_quote (h : IsSteady value) : ReadsAs (passed (quote value)) value := by
  intro args
  have ho : Reading.read { arguments := args } '"' = ⟨.quoted, args, some [], 0⟩ :=
    Reading.readQuote_eq .bare args none
  rw [passed_quote, List.foldl_cons, ho, foldl_read_handed h args [] 0 (.inl rfl)]
  exact ⟨by simp, rfl, rfl⟩

namespace Reading

/-- The backslashes in what has been read. -/
def held (r : Reading) : Nat :=
  r.arguments.flatten.count '\\' + (r.argument.getD []).count '\\' + r.backslashes

theorem held_extend (r : Reading) (cs : List Char) :
    (r.extend cs).held = r.held + cs.count '\\' := by
  simp only [held, extend, Option.getD_some, List.count_append]
  omega

theorem held_settle (r : Reading) : r.settle.held = r.held := by
  rw [settle]
  split
  · rfl
  · simp only [held, extend, Option.getD_some, List.count_append, List.count_replicate_self]
    omega

theorem count_allArguments (r : Reading) : r.allArguments.flatten.count '\\' = r.held := by
  have hargs : r.settle.arguments = r.arguments := by
    rw [settle]
    split <;> rfl
  have hnone : r.settle.backslashes = 0 := by
    rw [settle]
    split
    · assumption
    · rfl
  rw [← held_settle, held, hnone, hargs, allArguments]
  cases r.settle.argument <;> simp

theorem held_readQuote (r : Reading) :
    r.readQuote.held + r.backslashes = r.held + r.backslashes / 2 := by
  rw [readQuote]
  split <;> simp [held, extend] <;> omega

theorem held_readOpen_le (r : Reading) (c : Char) :
    (r.readOpen c).held ≤ r.held + [c].count '\\' := by
  rw [readOpen]
  split
  · next h =>
    subst h
    exact Nat.le_refl _
  · split
    · have hquote := held_readQuote r
      omega
    · split
      · have hall : ({ arguments := r.allArguments } : Reading).held = r.held := by
          rw [← count_allArguments r]
          rfl
        rw [hall]
        exact Nat.le_add_right _ _
      · rw [held_extend, held_settle]

/-- A character adds no backslash but itself. -/
theorem held_read_le (r : Reading) (c : Char) : (r.read c).held ≤ r.held + [c].count '\\' := by
  rw [read]
  split
  · split
    · next h =>
      subst h
      exact (held_extend r ['"']).le
    · exact held_readOpen_le { r with part := .bare } c
  · exact held_readOpen_le r c

theorem held_foldl_read_le (r : Reading) (line : List Char) :
    (line.foldl read r).held ≤ r.held + line.count '\\' := by
  induction line generalizing r with
  | nil => exact Nat.le_refl _
  | cons c cs ih =>
    have hread := held_read_le r c
    have hrest := ih (r.read c)
    have hcount : ([c] ++ cs).count '\\' = [c].count '\\' + cs.count '\\' := List.count_append
    rw [List.singleton_append] at hcount
    rw [List.foldl_cons]
    omega

theorem held_read_backslash_quote_le (r : Reading) : ((r.read '\\').read '"').held ≤ r.held := by
  obtain ⟨part, hpart, hread⟩ : ∃ part, part ≠ .closing ∧
      r.read '\\' = { r with part, backslashes := r.backslashes + 1 } := by
    by_cases hr : r.part = .closing
    · exact ⟨.bare, by decide, if_pos hr⟩
    · exact ⟨r.part, hr, if_neg hr⟩
  have hquote := held_readQuote (r.read '\\')
  have heq : (r.read '\\').read '"' = (r.read '\\').readQuote := by
    rw [hread]
    exact if_neg hpart
  have hheld : (r.read '\\').held = r.held + 1 := by
    rw [hread]
    rfl
  have hmore : (r.read '\\').backslashes = r.backslashes + 1 := by rw [hread]
  rw [heq]
  omega

end Reading

/-- A program that finds a backslash before a quote finds fewer backslashes than the line has. -/
theorem count_arguments_lt (h : ['\\', '"'] <:+: line) :
    (arguments line).flatten.count '\\' < line.count '\\' := by
  obtain ⟨front, back, rfl⟩ := h
  have hfront := Reading.held_foldl_read_le {} front
  have hlost := Reading.held_read_backslash_quote_le (front.foldl Reading.read {})
  have hback := Reading.held_foldl_read_le
    (((front.foldl Reading.read {}).read '\\').read '"') back
  have hempty : ({} : Reading).held = 0 := rfl
  have hcount : (front ++ ['\\', '"'] ++ back).count '\\' =
      front.count '\\' + 1 + back.count '\\' := by
    rw [List.count_append, List.count_append]
    rfl
  have hheld : (arguments (front ++ ['\\', '"'] ++ back)).flatten.count '\\' =
      (back.foldl Reading.read (((front.foldl Reading.read {}).read '\\').read '"')).held := by
    rw [arguments, Reading.count_allArguments, List.foldl_append, List.foldl_append]
    rfl
  omega

theorem count_handed (c : Char) : (handed c).count '\\' = [c].count '\\' := by
  by_cases hp : c = '%'
  · subst hp
    rfl
  · by_cases hq : c = '"'
    · subst hq
      rfl
    · rw [handed_of_ne hp hq]

theorem count_passed_quote (value : List Char) :
    (passed (quote value)).count '\\' = value.count '\\' := by
  rw [passed_quote, List.count_cons_of_ne (by decide)]
  induction value with
  | nil => rfl
  | cons c cs ih =>
    rw [List.flatMap_cons, List.append_assoc, List.count_append, ih, count_handed,
      ← List.count_append, List.singleton_append]

theorem exists_handed_eq_cons (hd : d ∈ (value ++ ['"']).head?) (h : d = '"' ∨ d = '%') :
    ∃ rest, value.flatMap handed ++ ['"'] = '"' :: rest := by
  cases value with
  | nil => exact ⟨[], rfl⟩
  | cons c cs =>
    obtain rfl : c = d := by simpa using hd
    obtain rfl | rfl := h
    · exact ⟨_, rfl⟩
    · exact ⟨_, rfl⟩

theorem infix_passed_quote (h : ¬IsSteady value) : ['\\', '"'] <:+: passed (quote value) := by
  rw [passed_quote]
  refine List.infix_cons ?_
  induction value with
  | nil => exact absurd (List.isChain_singleton _) h
  | cons c cs ih =>
    rw [IsSteady, List.cons_append, List.isChain_cons, not_and_or] at h
    rw [List.flatMap_cons, List.append_assoc]
    obtain hc | hcs := h
    · simp only [not_forall, not_and_or, not_not] at hc
      obtain ⟨d, hd, rfl, hor⟩ := hc
      obtain ⟨rest, hrest⟩ := exists_handed_eq_cons hd hor
      rw [hrest]
      exact ⟨[], rest, rfl⟩
    · exact (ih hcs).trans (List.suffix_append _ _).isInfix

theorem infix_spaced {texts : List (List Char)} (h : text ∈ texts) :
    text <:+: [' '].intercalate texts := by
  induction texts with
  | nil => cases h
  | cons first texts ih =>
    cases texts with
    | nil =>
      obtain rfl := List.mem_singleton.1 h
      exact ⟨[], [], by simp⟩
    | cons next texts =>
      rw [List.intercalate_cons_cons]
      obtain rfl | h := List.mem_cons.1 h
      · rw [List.append_assoc]
        exact List.infix_append' [] text _
      · exact (ih h).trans (List.suffix_append _ _).isInfix

theorem count_spaced (texts : List (List Char)) :
    ([' '].intercalate texts).count '\\' = texts.flatten.count '\\' := by
  induction texts with
  | nil => rfl
  | cons first texts ih =>
    cases texts with
    | nil => simp
    | cons next texts =>
      have hs : [' '].count '\\' = 0 := rfl
      rw [List.intercalate_cons_cons, List.count_append, List.count_append, hs, Nat.add_zero, ih,
        ← List.count_append]
      rfl

/-- A text of a line that stands for a value: it is handed on with the backslashes of the value, and
is read as the value unless one of them is lost. -/
structure IsWord (text value : List Char) : Prop where
  endsPlain : text.foldl Place.after .plain = .plain
  count : (passed text).count '\\' = value.count '\\'
  reads : ReadsAs (passed text) value ∨ ['\\', '"'] <:+: passed text

/-- The program finds the values of a line exactly if each text is read as its own. -/
theorem arguments_line_iff {texts : List (List Char × List Char)}
    (h : ∀ t ∈ texts, IsWord t.1 t.2) :
    arguments (passed ([' '].intercalate (texts.map (·.1)))) = texts.map (·.2) ↔
      ∀ t ∈ texts, ReadsAs (passed t.1) t.2 := by
  have hline : passed ([' '].intercalate (texts.map (·.1))) =
      [' '].intercalate (texts.map fun t => passed t.1) := by
    rw [passed_spaced (List.forall_mem_map.2 fun t ht => (h t ht).endsPlain), List.map_map]
    rfl
  rw [hline]
  constructor
  · intro heq t ht
    refine (h t ht).reads.resolve_right fun hpart => ?_
    have hmem : passed t.1 ∈ texts.map fun t => passed t.1 := List.mem_map_of_mem ht
    have hlost := count_arguments_lt (hpart.trans (infix_spaced hmem))
    have hcount : (texts.map fun t => passed t.1).flatten.count '\\' =
        (texts.map (·.2)).flatten.count '\\' := by
      rw [List.count_flatten, List.count_flatten, List.map_map, List.map_map]
      exact congrArg List.sum (List.map_congr_left fun t ht => (h t ht).count)
    rw [heq, count_spaced, hcount] at hlost
    exact Nat.lt_irrefl _ hlost
  · intro hreads
    have hpairs : ∀ t ∈ texts.map fun t => (passed t.1, t.2), ReadsAs t.1 t.2 :=
      List.forall_mem_map.2 hreads
    simpa [Function.comp_def] using arguments_spaced hpairs

theorem isWord_quote (value : List Char) : IsWord (quote value) value := by
  refine ⟨foldl_after_quote value, count_passed_quote value, ?_⟩
  by_cases h : IsSteady value
  · exact .inl (readsAs_quote h)
  · exact .inr (infix_passed_quote h)

theorem readsAs_quote_iff : ReadsAs (passed (quote value)) value ↔ IsSteady value := by
  refine ⟨fun hreads => ?_, readsAs_quote⟩
  by_contra h
  have hlost := count_arguments_lt (infix_passed_quote h)
  rw [arguments, (hreads []).allArguments_eq, count_passed_quote] at hlost
  simp at hlost

/-- A text without spaces, quotes and carets stands for itself. -/
theorem isWord_bare (hne : cs ≠ []) (h : ∀ c ∈ cs, c ≠ ' ' ∧ c ≠ '"' ∧ c ≠ '^') :
    IsWord cs cs ∧ ReadsAs (passed cs) cs := by
  have hbare : ∀ c ∈ cs, c ≠ '"' ∧ c ≠ '^' := fun c hc => (h c hc).2
  have hreads : ReadsAs cs cs := readsAs_bare hne fun c hc => ⟨(h c hc).1, (h c hc).2.1⟩
  have hpassed := passed_of_bare hbare
  exact ⟨⟨(scan_of_bare hbare).1, by rw [hpassed], .inl (hpassed.symm ▸ hreads)⟩,
    hpassed.symm ▸ hreads⟩

end Remedy.Shell.Cmd

namespace Remedy.InstallCommand

open Shell

theorem isWord_packageWord (packageId : String) :
    Cmd.IsWord (packageWord .cmd packageId).toList packageId.toList ∧
      (Cmd.ReadsAs (Cmd.passed (packageWord .cmd packageId).toList) packageId.toList ↔
        Cmd.IsSteady packageId.toList) := by
  obtain hq | ⟨hb, hne, hplain⟩ := packageWord_cmd_cases packageId
  · rw [hq, toList_quote_cmd]
    exact ⟨Cmd.isWord_quote _, Cmd.readsAs_quote_iff⟩
  · have hbare : ∀ c ∈ packageId.toList, c ≠ ' ' ∧ c ≠ '"' ∧ c ≠ '^' := fun c hc =>
      ⟨ne_of_isPlain (hplain c hc) (by decide), ne_of_isPlain (hplain c hc) (by decide),
        ne_of_isPlain (hplain c hc) (by decide)⟩
    have hsteady : Cmd.IsSteady packageId.toList :=
      Cmd.isSteady_of_notMem fun hm => ne_of_isPlain (hplain _ hm) (by decide) rfl
    obtain ⟨hword, hreads⟩ := Cmd.isWord_bare (by simpa using hne) hbare
    rw [hb]
    exact ⟨hword, iff_of_true hreads hsteady⟩

/-- A value in quotes is one argument of the program, and a command line is the tool with its four
arguments, exactly if no backslash of the value, or of the project and the package, meets one of the
quotes that are written after it. -/
theorem cmd_arguments_iff_steady {tool : String} (hne : tool ≠ "")
    (ht : ∀ c ∈ tool.toList, c ≠ ' ' ∧ c ≠ '"' ∧ c ≠ '^') :
    (∀ value : String,
      Cmd.arguments (Cmd.passed (Flavor.cmd.quote value).toList) = [value.toList] ↔
        Cmd.IsSteady value.toList) ∧
    ∀ (packageId : String) (project : ManifestPath),
      Cmd.arguments (Cmd.passed (forShell .cmd tool packageId project).commandLine.toList) =
          [tool.toList, "add".toList, project.text.toList, "package".toList, packageId.toList] ↔
        Cmd.IsSteady project.text.toList ∧ Cmd.IsSteady packageId.toList := by
  refine ⟨fun value => ?value, fun packageId project => ?line⟩
  case value =>
    have hword : ∀ t ∈ [(Cmd.quote value.toList, value.toList)], Cmd.IsWord t.1 t.2 :=
      List.forall_mem_singleton.2 (Cmd.isWord_quote _)
    rw [toList_quote_cmd, ← Cmd.readsAs_quote_iff]
    simpa using Cmd.arguments_line_iff hword
  case line =>
    let texts : List (List Char × List Char) := [
      (tool.toList, tool.toList), ("add".toList, "add".toList),
      (Cmd.quote project.text.toList, project.text.toList), ("package".toList, "package".toList),
      ((packageWord .cmd packageId).toList, packageId.toList)]
    obtain ⟨htool, htool'⟩ := Cmd.isWord_bare (by simpa using hne) ht
    obtain ⟨hadd, hadd'⟩ : Cmd.IsWord "add".toList "add".toList ∧ _ :=
      Cmd.isWord_bare (by decide) (by simp)
    obtain ⟨hpackage, hpackage'⟩ : Cmd.IsWord "package".toList "package".toList ∧ _ :=
      Cmd.isWord_bare (by decide) (by simp)
    obtain ⟨hid, hid'⟩ := isWord_packageWord packageId
    have hword : ∀ t ∈ texts, Cmd.IsWord t.1 t.2 := by
      simp only [texts, List.forall_mem_cons]
      exact ⟨htool, hadd, Cmd.isWord_quote _, hpackage, hid, by simp⟩
    rw [toList_commandLine]
    refine (Cmd.arguments_line_iff hword).trans ?_
    simp only [texts, List.forall_mem_cons, htool', hadd', Cmd.readsAs_quote_iff, hpackage', hid',
      List.not_mem_nil, false_implies, implies_true, true_and, and_true]

/-- A package that would end in a backslash, and one with quotes, percent signs and backslashes that
stand apart. -/
theorem cmd_arguments_of_backslashes :
    Cmd.arguments (Cmd.passed (forShell .cmd "dotnet" "Tools\\"
        ⟨"App.csproj", by decide⟩).commandLine.toList) ≠
      ["dotnet".toList, "add".toList, "App.csproj".toList, "package".toList, "Tools\\".toList] ∧
    Cmd.arguments (Cmd.passed (forShell .cmd "dotnet" "%a\\b\"\" c%"
        ⟨"src\\My Apps/100%.csproj", by decide⟩).commandLine.toList) =
      ["dotnet".toList, "add".toList, "src\\My Apps/100%.csproj".toList, "package".toList,
        "%a\\b\"\" c%".toList] := by
  obtain ⟨-, hline⟩ := @cmd_arguments_iff_steady "dotnet" (by decide) (by simp)
  exact ⟨mt (hline _ _).1 (by decide), (hline _ _).2 (by decide)⟩

end Remedy.InstallCommand
