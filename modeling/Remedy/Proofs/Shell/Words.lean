import Mathlib.Tactic.SplitIfs
import Remedy.Proofs.Install.PosixLine
import Remedy.Proofs.Text.Utf8
import Remedy.Shell.Syntax.Words

namespace Remedy.Shell

namespace Posix

open Text.Octets

variable {words : List (List Char)} {last : Reading} {c : Char} {w : List Char}

theorem toNat_lt_of_isActive (h : isActive c = true) : c.toNat < 128 := by
  simp only [isActive, Bool.or_eq_true, beq_iff_eq] at h
  obtain ((rfl | rfl) | rfl) | rfl := h <;> decide

theorem toNat_lt_of_isLiteral (h : isLiteral c = true) : c.toNat < 128 := by
  have hranges : c.isAlphanum =
      (decide ('A'.val ≤ c.val ∧ c.val ≤ 'Z'.val) ||
        'a'.val ≤ c.val && c.val ≤ 'z'.val || '0'.val ≤ c.val && c.val ≤ '9'.val) := rfl
  have hle {d : Char} (hd : c.val ≤ d.val) (hlast : d.toNat < 128) : c.toNat < 128 :=
    Nat.lt_of_le_of_lt (UInt32.le_iff_toNat_le.1 hd) hlast
  simp only [isLiteral, hranges, Bool.or_eq_true, Bool.and_eq_true, decide_eq_true_eq,
    beq_iff_eq] at h
  obtain ((((((⟨-, h⟩ | ⟨-, h⟩) | ⟨-, h⟩) | rfl) | rfl) | rfl) | rfl) := h
  · exact hle h (by decide)
  · exact hle h (by decide)
  · exact hle h (by decide)
  all_goals decide

theorem isActive_of_le (h : 128 ≤ c.toNat) : isActive c = false :=
  Bool.eq_false_iff.2 fun hc => absurd (toNat_lt_of_isActive hc) (Nat.not_lt_of_ge h)

/-- What is read so far, in octets. -/
def Reading.octets (r : Reading) : Reading :=
  ⟨r.place, r.words.map spell, r.word.map spell⟩

theorem read_inactive {cs : List Char} (h : ∀ c ∈ cs, 128 ≤ c.toNat) :
    cs.foldlM Reading.read? ⟨.quoted, words, some w⟩ = some ⟨.quoted, words, some (w ++ cs)⟩ := by
  induction cs generalizing w with
  | nil => simp
  | cons c cs ih =>
    rw [List.forall_mem_cons] at h
    simp [read?_quoted_inactive (isActive_of_le h.1), ih h.2]

theorem octets_allWords (r : Reading) : r.octets.allWords = r.allWords.map spell := by
  obtain ⟨place, words, _ | w⟩ := r <;> simp [Reading.octets, Reading.allWords]

theorem read?_octets_of_lt (hc : c.toNat < 128) (r : Reading) :
    r.octets.read? c = (r.read? c).map Reading.octets := by
  have hspell := spell_singleton_of_lt hc
  have hboth : spell ['\\', c] = ['\\', c] := by rw [spell_cons, hspell]; rfl
  -- both sides ask the same questions in the same place
  obtain ⟨place, words, _ | w⟩ := r <;> cases place <;>
    simp only [Reading.read?, Reading.octets] <;> split_ifs <;>
    simp [Reading.octets, Reading.extend, Reading.allWords, hspell, hboth]

theorem read_octets_of_le (hc : 128 ≤ c.toNat) {r r' : Reading} (h : r.read? c = some r') :
    (spell [c]).foldlM Reading.read? r.octets = some r'.octets := by
  obtain ⟨d, ds, hspell, hd, hds⟩ := exists_spell_of_le hc
  have hne {c : Char} (hc : 128 ≤ c.toNat) (e : Char) (he : e.toNat < 128) : c ≠ e := by
    rintro rfl
    omega
  have hquote (c : Char) (hc : 128 ≤ c.toNat) : c ≠ '"' := hne hc _ (by decide)
  have hbackslash (c : Char) (hc : 128 ≤ c.toNat) : c ≠ '\\' := hne hc _ (by decide)
  have hline (c : Char) (hc : 128 ≤ c.toNat) : c ≠ '\n' := hne hc _ (by decide)
  have hliteral : isLiteral c ≠ true := fun h => Nat.not_lt_of_ge hc (toNat_lt_of_isLiteral h)
  obtain ⟨place, words, w⟩ := r
  rw [hspell, List.foldlM_cons]
  cases place with
  | plain => simp [Reading.read?, hquote c hc, hne hc ' ' (by decide), hliteral] at h
  | quoted =>
    obtain rfl : r' = ⟨.quoted, words, some (w.getD [] ++ [c])⟩ := by
      simpa [Reading.read?, Reading.extend, hquote c hc, hbackslash c hc, isActive_of_le hc,
        eq_comm] using h
    cases w <;> simp [Reading.read?, Reading.octets, Reading.extend, hquote d hd, hbackslash d hd,
      isActive_of_le hd, read_inactive hds, hspell]
  | escaped =>
    obtain rfl : r' = ⟨.quoted, words, some (w.getD [] ++ ['\\', c])⟩ := by
      simpa [Reading.read?, Reading.extend, hline c hc, isActive_of_le hc, eq_comm] using h
    have hboth : spell ['\\', c] = '\\' :: d :: ds := by rw [spell_cons, hspell]; rfl
    cases w <;> simp [Reading.read?, Reading.octets, Reading.extend, hline d hd, isActive_of_le hd,
      read_inactive hds, hboth]

theorem read_octets {cs : List Char} {r r' : Reading} (h : cs.foldlM Reading.read? r = some r') :
    (spell cs).foldlM Reading.read? r.octets = some r'.octets := by
  induction cs generalizing r with
  | nil =>
    cases h
    rfl
  | cons c cs ih =>
    obtain ⟨next, hc, hcs⟩ := Option.bind_eq_some_iff.1 (List.foldlM_cons.symm.trans h)
    have hfirst : (spell [c]).foldlM Reading.read? r.octets = some next.octets := by
      by_cases hlt : c.toNat < 128
      · simp [spell_singleton_of_lt hlt, read?_octets_of_lt hlt, hc]
      · exact read_octets_of_le (Nat.le_of_not_lt hlt) hc
    rw [spell_cons, List.foldlM_append, hfirst]
    exact ih hcs

theorem words?_eq_some_iff {line : List Char} : words? line = some words ↔
    ∃ last, line.foldlM Reading.read? {} = some last ∧ last.place = .plain ∧
      last.allWords = words := by
  have hguard (last : Reading) : (do guard (last.place = .plain); return last.allWords) =
      some words ↔ last.place = .plain ∧ last.allWords = words := by
    by_cases closed : last.place = .plain
    · have hg : (guard (last.place = .plain) : Option Unit) = some () := if_pos closed
      rw [hg]
      simp [closed]
    · have hg : (guard (last.place = .plain) : Option Unit) = none := if_neg closed
      rw [hg]
      simp [closed]
  exact Option.bind_eq_some_iff.trans (exists_congr fun last => and_congr_right' (hguard last))

/-- The octets of a line are read as the octets of its words. -/
theorem words?_spell {line : List Char} (h : words? line = some words) :
    words? (spell line) = some (words.map spell) := by
  obtain ⟨last, reads, closed, rfl⟩ := words?_eq_some_iff.1 h
  exact words?_eq_some_iff.2 ⟨last.octets, read_octets reads, closed, octets_allWords last⟩

theorem reads_dropWhile (input : List Char) :
    (input.dropWhile (· == ' ')).foldlM Reading.read? ⟨.plain, words, none⟩ =
      input.foldlM Reading.read? ⟨.plain, words, none⟩ := by
  induction input with
  | nil => rfl
  | cons c cs ih =>
    by_cases hspace : c = ' '
    · subst hspace
      have same : Reading.read? ⟨.plain, words, none⟩ ' ' = some ⟨.plain, words, none⟩ := by
        simp [Reading.read?, Reading.allWords]
      rw [List.dropWhile_cons_of_pos (by rfl), ih, List.foldlM_cons, same, Option.bind_eq_bind,
        Option.bind_some]
    · rw [List.dropWhile_cons_of_neg (by simpa using hspace)]

theorem ne_of_begins {d : Char} (hc : c = '"' ∨ isLiteral c = true)
    (hd : d ≠ '"' ∧ isLiteral d = false) : c ≠ d := by
  rintro rfl
  obtain rfl | hc := hc
  · exact hd.1 rfl
  · rw [hc] at hd
    cases hd.2

/-- A word begins with a literal or a quote. -/
theorem begins_of_reads {cs : List Char} (hspace : c ≠ ' ')
    (reads : (c :: cs).foldlM Reading.read? ⟨.plain, words, none⟩ = some last) :
    (c = '"' ∨ isLiteral c = true) ∧
      (c :: cs).foldlM Reading.read? ⟨.plain, words, some []⟩ = some last := by
  rw [List.foldlM_cons] at reads ⊢
  by_cases hquote : c = '"'
  · subst hquote
    exact ⟨.inl rfl, reads⟩
  by_cases hliteral : isLiteral c = true
  · rw [read?_literal hliteral] at reads ⊢
    exact ⟨.inr hliteral, reads⟩
  · have unread : Reading.read? ⟨.plain, words, none⟩ c = none := by
      simp [Reading.read?, hquote, hspace, hliteral]
    rw [unread] at reads
    cases reads

/-- A space or the end of the line ends a word. -/
theorem reads_of_ended {rest word : List Char} (hend : ∀ c ∈ rest.head?, c = ' ')
    (reads : rest.foldlM Reading.read? ⟨.plain, words, some word⟩ = some last)
    (closed : last.place = .plain) :
    ∃ last' : Reading, rest.foldlM Reading.read? ⟨.plain, words ++ [word], none⟩ = some last' ∧
      last'.place = .plain ∧ last'.allWords = last.allWords := by
  cases rest with
  | nil =>
    cases reads
    exact ⟨⟨.plain, words ++ [word], none⟩, rfl, rfl, by simp [Reading.allWords]⟩
  | cons c cs =>
    obtain rfl : c = ' ' := hend c rfl
    refine ⟨last, ?_, closed, rfl⟩
    rw [← reads, List.foldlM_cons, List.foldlM_cons]
    simp [Reading.read?, Reading.allWords]

end Posix

/-- A word of literals, which spell a text. What is not quoted has no other meaning. -/
inductive Spells : Word → List Char → Prop
  | nil : Spells [] []
  | quoted (text : String) {w value} (rest : Spells w value) :
    Spells (.literal text true :: w) (text.toList ++ value)
  | bare {text : String} {w value} (nonempty : text ≠ "")
      (literal : ∀ c ∈ text.toList, Posix.isLiteral c = true) (rest : Spells w value) :
    Spells (.literal text false :: w) (text.toList ++ value)

namespace Spells

variable {w w' : Word} {value value' : List Char} {c : Char} {text : String}

theorem append (h : Spells w value) (h' : Spells w' value') :
    Spells (w ++ w') (value ++ value') := by
  induction h with
  | nil => exact h'
  | quoted text _ ih => simpa using ih.quoted text
  | bare nonempty literal _ ih => simpa using ih.bare nonempty literal

theorem exists_append (h : Spells (w ++ w') value) :
    ∃ front back, value = front ++ back ∧ Spells w front ∧ Spells w' back := by
  induction w generalizing value with
  | nil => exact ⟨[], value, rfl, .nil, h⟩
  | cons part w ih =>
    rw [List.cons_append] at h
    cases h with
    | quoted text rest =>
      obtain ⟨front, back, rfl, hw, hw'⟩ := ih rest
      exact ⟨text.toList ++ front, back, by simp, hw.quoted text, hw'⟩
    | bare nonempty literal rest =>
      obtain ⟨front, back, rfl, hw, hw'⟩ := ih rest
      exact ⟨_ ++ front, back, by simp, hw.bare nonempty literal, hw'⟩

theorem extend_quoted (h : Spells (w ++ [.literal text true]) value) :
    Spells (w ++ [.literal (String.ofList (text.toList ++ [c])) true]) (value ++ [c]) := by
  obtain ⟨front, back, rfl, hw, hlast⟩ := h.exists_append
  cases hlast with
  | quoted _ rest =>
    cases rest
    simpa using hw.append (.quoted (String.ofList (text.toList ++ [c])) .nil)

theorem extend_bare (h : Spells (w ++ [.literal text false]) value)
    (hc : Posix.isLiteral c = true) :
    Spells (w ++ [.literal (String.ofList (text.toList ++ [c])) false]) (value ++ [c]) := by
  obtain ⟨front, back, rfl, hw, hlast⟩ := h.exists_append
  cases hlast with
  | bare _ literal rest =>
    cases rest
    have longer : Spells [.literal (String.ofList (text.toList ++ [c])) false]
        ((String.ofList (text.toList ++ [c])).toList ++ []) := by
      refine .bare (fun he => by simpa using congrArg String.toList he) (fun d hd => ?_) .nil
      rw [String.toList_ofList, List.mem_append, List.mem_singleton] at hd
      obtain hd | rfl := hd
      · exact literal d hd
      · exact hc
    rw [String.toList_ofList, List.append_nil] at longer
    simpa only [List.append_assoc, List.append_nil] using hw.append longer

end Spells

namespace Gathered

variable {g : Gathered} {value : List Char} {c : Char}

theorem word_of_hasText (h : g.hasText = true) :
    g.word = g.parts.reverse ++ [.literal (String.ofList g.text.reverse) g.isQuoted] := by
  simp [word, close, h]

theorem word_of_not_hasText (h : g.hasText = false) : g.word = g.parts.reverse := by
  simp [word, close, h]

theorem reverse_parts_close (g : Gathered) : g.close.parts.reverse = g.word := rfl

theorem hasText_close (g : Gathered) : g.close.hasText = false := by
  rw [close]
  split
  · rfl
  · next h => simpa using h

theorem word_addParts (g : Gathered) (ps : List Part) : (g.addParts ps).word = g.word ++ ps := by
  have hword := word_of_not_hasText (g := g.addParts ps) (hasText_close g)
  rw [hword, addParts, List.reverse_append, List.reverse_reverse, reverse_parts_close]

theorem spells_addChar_quoted (h : Spells g.word value) :
    Spells (g.addChar c true).word (value ++ [c]) := by
  rw [addChar]
  split
  · next hsame =>
    obtain ⟨htext, hquoted⟩ : g.hasText = true ∧ g.isQuoted = true := by simpa using hsame
    rw [word_of_hasText htext, hquoted] at h
    rw [word_of_hasText (g := { g with text := c :: g.text }) htext, hquoted]
    simpa using h.extend_quoted (c := c)
  · rw [word_of_hasText rfl]
    simpa [reverse_parts_close] using h.append (.quoted (String.ofList [c]) .nil)

theorem spells_addChar_bare (h : Spells g.word value) (hc : Posix.isLiteral c = true) :
    Spells (g.addChar c false).word (value ++ [c]) := by
  rw [addChar]
  split
  · next hsame =>
    obtain ⟨htext, hquoted⟩ : g.hasText = true ∧ g.isQuoted = false := by simpa using hsame
    rw [word_of_hasText htext, hquoted] at h
    rw [word_of_hasText (g := { g with text := c :: g.text }) htext, hquoted]
    simpa using h.extend_bare hc
  · have single : Spells [.literal (String.ofList [c]) false] ((String.ofList [c]).toList ++ []) :=
      .bare (fun he => by simpa using congrArg String.toList he) (by simpa using hc) .nil
    rw [word_of_hasText rfl]
    simpa [reverse_parts_close] using h.append single

theorem word_ne_nil (h : g.hasText = true) : g.word ≠ [] := by
  rw [word_of_hasText h]
  exact List.append_ne_nil_of_right_ne_nil _ nofun

theorem hasText_addChar (g : Gathered) (c : Char) (quoted : Bool) :
    (g.addChar c quoted).hasText = true := by
  rw [addChar]
  split
  · next h => exact (Bool.and_eq_true_iff.1 h).1
  · rfl

theorem hasText_addText_empty (g : Gathered) : (g.addText "" true).hasText = true := by
  rw [addText]
  split
  · next h => exact (Bool.and_eq_true_iff.1 h).1
  · rw [if_neg (by simp)]

/-- A quotation counts even if it is empty. -/
theorem spells_addText_empty (h : Spells g.word value) :
    Spells (g.addText "" true).word value := by
  rw [addText]
  split
  · exact h
  · rw [if_neg (by simp), word_of_hasText rfl]
    simpa [reverse_parts_close] using h.append (.quoted "" .nil)

end Gathered

/-- A reading of a plain shell without aliases. -/
structure Reading.IsPlain (r : Reading) : Prop where
  dialect : r.dialect = .plain
  aliases : r.aliases = []
  substituted : r.substituted = []

theorem Reading.IsPlain.goesOn {r : Reading} (h : r.IsPlain) (rest : List Char) (line : Nat)
    (pushed : Option Token) : Reading.IsPlain { r with rest, line, pushed } :=
  ⟨h.dialect, h.aliases, h.substituted⟩

namespace Parser

variable {r : Reading}

@[simp] theorem bind_apply (p : Parser α) (next : α → Parser β) :
    (p >>= next) r = (p r).bind fun (a, r) => next a r := rfl

@[simp] theorem map_apply (f : α → β) (p : Parser α) :
    (f <$> p) r = (p r).bind fun (a, r) => .ok (f a, r) := rfl

@[simp] theorem pure_apply (a : α) : (pure a : Parser α) r = .ok (a, r) := rfl

@[simp] theorem get_apply : (get : Parser Reading) r = .ok (r, r) := rfl

theorem get_bind_apply (p : Reading → Parser α) : (get >>= p) r = p r r := rfl

@[simp] theorem set_apply (r' : Reading) : (set r' : Parser Unit) r = .ok ((), r') := rfl

@[simp] theorem modify_apply (f : Reading → Reading) : (modify f : Parser Unit) r = .ok ((), f r) :=
  rfl

@[simp] theorem skip_apply (n : Nat) : skip n r = .ok ((), { r with rest := r.rest.drop n }) := rfl

@[simp] theorem newLine_apply : newLine r = .ok ((), { r with line := r.line + 1 }) := rfl

@[simp] theorem peek_apply : peek r = .ok (r.rest.head?, r) := rfl

@[simp] theorem isExtended_apply : isExtended r = .ok (r.dialect == .extended, r) := rfl

end Parser

namespace Words

variable {commands : Commands} {token : Parser Token} {n : Nat} {g : Gathered} {r : Reading}
  {c : Char} {cs : List Char}

theorem parts_quoted_quote (hr : r.rest = '"' :: cs) :
    parts commands token (n + 1) .quoted g r = .ok (g.word, { r with rest := cs }) := by
  simp [parts, hr, Except.bind]

theorem parts_quoted_char (hr : r.rest = c :: cs) (hc : Posix.isActive c = false) :
    parts commands token (n + 1) .quoted g r =
      parts commands token n .quoted (g.addChar c true)
        { r with rest := cs, line := r.line + if c = '\n' then 1 else 0 } := by
  simp only [Posix.isActive, Bool.or_eq_false_iff, beq_eq_false_iff_ne] at hc
  obtain ⟨⟨⟨hquote, hbackslash⟩, hdollar⟩, hbackquote⟩ := hc
  by_cases hline : c = '\n'
  · subst hline
    simp [parts, hr, Except.bind, Place.isQuoted]
  · simp [parts, hr, Except.bind, hquote, hbackslash, hline, Place.isQuoted]

theorem isEscaped_quoted (c : Char) : isEscaped .quoted c = Posix.isActive c := by
  rw [Bool.eq_iff_iff]
  simp [isEscaped, Posix.isActive]
  grind

theorem parts_continued {place : Place} (hr : r.rest = '\\' :: '\n' :: cs) :
    parts commands token (n + 1) place g r =
      parts commands token n place g { r with rest := cs, line := r.line + 1 } := by
  simp [parts, hr, Except.bind]

theorem parts_quoted_escaped (hr : r.rest = '\\' :: c :: cs) (hc : Posix.isActive c = true) :
    parts commands token (n + 1) .quoted g r =
      parts commands token n .quoted (g.addChar c true) { r with rest := cs } := by
  have hline : c ≠ '\n' := by
    rintro rfl
    cases hc
  simp [parts, hr, Except.bind, isEscaped_quoted, hc]

theorem parts_quoted_backslash (hr : r.rest = '\\' :: c :: cs) (hc : Posix.isActive c = false)
    (hline : c ≠ '\n') :
    parts commands token (n + 1) .quoted g r =
      parts commands token n .quoted (g.addChar '\\' true) { r with rest := c :: cs } := by
  simp [parts, hr, Except.bind, isEscaped_quoted, hc, Place.isQuoted]

theorem parts_bare_end (hr : ∀ c ∈ r.rest.head?, c = ' ') :
    parts commands token (n + 1) .bare g r = .ok (g.word, r) := by
  cases hrest : r.rest with
  | nil => simp [parts, hrest, Except.bind]
  | cons c cs =>
    obtain rfl : c = ' ' := hr c (by rw [hrest]; rfl)
    simp [parts, hrest, Except.bind, endsWord]

theorem parts_bare_quote (hr : r.rest = '"' :: cs) :
    parts commands token (n + 1) .bare g r =
      (parts commands token n .quoted {} { r with rest := cs }).bind fun (inner, r) =>
        parts commands token n .bare (addQuoted g inner) r := by
  simp [parts, hr, Except.bind, endsWord]

theorem parts_bare_char (hr : r.rest = c :: cs) (hc : Posix.isLiteral c = true) :
    parts commands token (n + 1) .bare g r =
      parts commands token n .bare (g.addChar c false) { r with rest := cs } := by
  have hne (d : Char) (hd : Posix.isLiteral d = false) : c ≠ d := by
    rintro rfl
    rw [hc] at hd
    cases hd
  have hends : endsWord c = false := by
    have hall : ∀ d ∈ " \t\n&|;()<>".toList, (!Posix.isLiteral d) = true :=
      List.all_eq_true.1 (by decide)
    refine Bool.eq_false_iff.2 fun h => hne c ?_ rfl
    simpa using hall c (List.contains_iff_mem.1 h)
  simp [parts, hr, Except.bind, hends, hne '\\' rfl, hne '$' rfl, hne '\x60' rfl, hne '\'' rfl,
    hne '"' rfl]

/-- Between quotes, a word goes on with the text as far as the quote that ends the quotation. What
it has spelled so far is `value`, and `word` is what was read of it. -/
def Closes (commands : Commands) (token : Parser Token) (words : List (List Char))
    (last : Posix.Reading) (n : Nat) (g : Gathered) (word value input : List Char) : Prop :=
  ∃ more rest lines w, rest.length < input.length ∧ Spells w (value ++ more) ∧
    rest.foldlM Posix.Reading.read? ⟨.plain, words, some (word ++ more)⟩ = some last ∧
    ∀ r : Reading, r.rest = input → parts commands token n .quoted g r =
      .ok (w, { r with rest, line := r.line + lines })

/-- Outside of quotes, a word goes on with the text as far as a space or the end of the line. -/
def Ends (commands : Commands) (token : Parser Token) (words : List (List Char))
    (last : Posix.Reading) (n : Nat) (g : Gathered) (word value input : List Char) : Prop :=
  ∃ more rest lines w, (w = g.word ∧ rest = input ∨ w ≠ [] ∧ rest.length < input.length) ∧
    (∀ c ∈ rest.head?, c = ' ') ∧ Spells w (value ++ more) ∧
    rest.foldlM Posix.Reading.read? ⟨.plain, words, some (word ++ more)⟩ = some last ∧
    ∀ r : Reading, r.rest = input → parts commands token n .bare g r =
      .ok (w, { r with rest, line := r.line + lines })

variable {words : List (List Char)} {last : Posix.Reading} {word value input rest : List Char}
  {g' : Gathered}

theorem Closes.step (h : Closes commands token words last n g' (word ++ cs) (value ++ cs) rest)
    (lines : Nat) (shorter : rest.length ≤ input.length)
    (hstep : ∀ r : Reading, r.rest = input → parts commands token (n + 1) .quoted g r =
      parts commands token n .quoted g' { r with rest, line := r.line + lines }) :
    Closes commands token words last (n + 1) g word value input := by
  obtain ⟨more, rest', lines', w, shorter', spells, reads, hrun⟩ := h
  rw [List.append_assoc] at spells reads
  refine ⟨cs ++ more, rest', lines + lines', w, by omega, spells, reads, fun r hr => ?_⟩
  rw [hstep r hr, hrun _ rfl, Nat.add_assoc]

theorem Ends.step (h : Ends commands token words last n g' (word ++ cs) (value ++ cs) rest)
    (lines : Nat) (hne : g'.word ≠ []) (shorter : rest.length < input.length)
    (hstep : ∀ r : Reading, r.rest = input → parts commands token (n + 1) .bare g r =
      parts commands token n .bare g' { r with rest, line := r.line + lines }) :
    Ends commands token words last (n + 1) g word value input := by
  obtain ⟨more, rest', lines', w, hw, hend, spells, reads, hrun⟩ := h
  have goesOn : w ≠ [] ∧ rest'.length < input.length := by
    obtain ⟨rfl, rfl⟩ | ⟨hne, shorter'⟩ := hw
    · exact ⟨hne, shorter⟩
    · exact ⟨hne, by omega⟩
  rw [List.append_assoc] at spells reads
  refine ⟨cs ++ more, rest', lines + lines', w, .inr goesOn, hend, spells, reads, fun r hr => ?_⟩
  rw [hstep r hr, hrun _ rfl, Nat.add_assoc]

theorem closes_of_reads (long : input.length < n) (spelled : Spells g.word value)
    (reads : input.foldlM Posix.Reading.read? ⟨.quoted, words, some word⟩ = some last)
    (closed : last.place = .plain) : Closes commands token words last n g word value input := by
  induction n generalizing input word value g with
  | zero => exact absurd long (Nat.not_lt_zero _)
  | succ n ih =>
    cases input with
    | nil =>
      cases reads
      cases closed
    | cons c cs =>
      rw [List.length_cons] at long
      rw [List.foldlM_cons, Option.bind_eq_bind] at reads
      by_cases hquote : c = '"'
      · subst hquote
        exact ⟨[], cs, 0, g.word, by simp, by simpa using spelled,
          by simpa [Posix.Reading.read?] using reads, fun r hr => parts_quoted_quote hr⟩
      by_cases hbackslash : c = '\\'
      · subst hbackslash
        cases cs with
        | nil =>
          cases reads
          cases closed
        | cons d cs =>
          rw [List.length_cons] at long
          change (d :: cs).foldlM Posix.Reading.read? ⟨.escaped, words, some word⟩ = _ at reads
          rw [List.foldlM_cons, Option.bind_eq_bind] at reads
          by_cases hline : d = '\n'
          · subst hline
            have goesOn : Closes commands token words last n g (word ++ []) (value ++ []) cs := by
              simpa using ih (by omega) spelled reads
            exact goesOn.step 1 (by simp; omega) fun r hr => parts_continued hr
          by_cases hactive : Posix.isActive d = true
          · rw [Posix.read?_escaped_active hactive] at reads
            have goesOn := ih (by omega) (Gathered.spells_addChar_quoted (c := d) spelled) reads
            exact goesOn.step 0 (by simp; omega) fun r hr => parts_quoted_escaped hr hactive
          · rw [Bool.not_eq_true] at hactive
            -- the backslash stands for itself, and its neighbour is read as if it stood alone
            have both : Posix.Reading.read? ⟨.escaped, words, some word⟩ d =
                Posix.Reading.read? ⟨.quoted, words, some (word ++ ['\\'])⟩ d := by
              rw [Posix.read?_quoted_inactive hactive]
              simp [Posix.Reading.read?, Posix.Reading.extend, hline, hactive]
            rw [both, ← Option.bind_eq_bind, ← List.foldlM_cons] at reads
            have goesOn :=
              ih (by simp; omega) (Gathered.spells_addChar_quoted (c := '\\') spelled) reads
            exact goesOn.step 0 (by simp) fun r hr => parts_quoted_backslash hr hactive hline
      by_cases hactive : Posix.isActive c = true
      · have unread : Posix.Reading.read? ⟨.quoted, words, some word⟩ c = none := by
          simp [Posix.Reading.read?, hquote, hbackslash, hactive]
        rw [unread] at reads
        cases reads
      · rw [Bool.not_eq_true] at hactive
        rw [Posix.read?_quoted_inactive hactive] at reads
        have goesOn := ih (by omega) (Gathered.spells_addChar_quoted (c := c) spelled) reads
        exact goesOn.step _ (by simp) fun r hr => parts_quoted_char hr hactive

theorem isList_of_spells {w : Word} (h : Spells w value) : isList w = false := by
  cases h with
  | nil => rfl
  | quoted | bare => rfl

theorem word_addQuoted {inner : Word} (h : Spells inner value) :
    (addQuoted g inner).word = (g.addText "" true).word ++ inner := by
  rw [addQuoted, if_neg (by simp [isList_of_spells h]), Gathered.word_addParts]

theorem ends_of_reads (long : input.length < n) (spelled : Spells g.word value)
    (reads : input.foldlM Posix.Reading.read? ⟨.plain, words, some word⟩ = some last)
    (closed : last.place = .plain) : Ends commands token words last n g word value input := by
  induction n generalizing input word value g with
  | zero => exact absurd long (Nat.not_lt_zero _)
  | succ n ih =>
    by_cases hend : ∀ c ∈ input.head?, c = ' '
    · exact ⟨[], input, 0, g.word, .inl ⟨rfl, rfl⟩, hend, by simpa using spelled,
        by simpa using reads, fun r hr => by subst hr; exact parts_bare_end hend⟩
    cases input with
    | nil => exact absurd nofun hend
    | cons c cs =>
      have hspace : c ≠ ' ' := by simpa using hend
      rw [List.length_cons] at long
      rw [List.foldlM_cons, Option.bind_eq_bind] at reads
      by_cases hquote : c = '"'
      · subst hquote
        have opened : Posix.Reading.read? ⟨.plain, words, some word⟩ '"' =
            some ⟨.quoted, words, some word⟩ := by
          simp [Posix.Reading.read?, Posix.Reading.extend]
        rw [opened] at reads
        obtain ⟨more, rest, lines, inner, shorter, spells, reads, hinner⟩ : Closes commands token
            words last n {} word [] cs := closes_of_reads (by omega) .nil reads closed
        have hword := word_addQuoted (g := g) spells
        have hne : (addQuoted g inner).word ≠ [] := by
          rw [hword]
          exact List.append_ne_nil_of_left_ne_nil
            (Gathered.word_ne_nil (Gathered.hasText_addText_empty g)) _
        have longer : Spells (addQuoted g inner).word (value ++ more) := by
          rw [hword]
          exact (Gathered.spells_addText_empty spelled).append spells
        refine (ih (by omega) longer reads).step lines hne (by simp; omega) fun r hr => ?_
        rw [parts_bare_quote hr, hinner _ rfl]
        rfl
      by_cases hliteral : Posix.isLiteral c = true
      · rw [Posix.read?_literal hliteral] at reads
        have goesOn := ih (by omega) (Gathered.spells_addChar_bare spelled hliteral) reads
        exact goesOn.step 0 (Gathered.word_ne_nil (Gathered.hasText_addChar ..)) (by simp)
          fun r hr => parts_bare_char hr hliteral
      · have unread : Posix.Reading.read? ⟨.plain, words, some word⟩ c = none := by
          simp [Posix.Reading.read?, hquote, hspace, hliteral]
        rw [unread] at reads
        cases reads

end Words

end Remedy.Shell
