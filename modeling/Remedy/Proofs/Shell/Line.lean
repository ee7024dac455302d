import Mathlib.Data.List.Forall2
import Remedy.Proofs.Shell.Words
import Remedy.Shell.Syntax.Grammar

namespace Remedy.Shell

theorem Reading.pushed_self (r : Reading) {pushed : Option Token} (h : r.pushed = pushed) :
    { r with pushed } = r := by
  rw [← h]

namespace Tokens

open Words

variable {commands : Commands} {token : Parser Token} {n : Nat} {r r' : Reading} {w : Word}
  {c : Char} {cs : List Char}

theorem startsWith?_eq_none {texts : List String} (hc : c = '"' ∨ Posix.isLiteral c = true)
    (h : texts.all (·.toList.head?.any fun d => d ≠ '"' && !Posix.isLiteral d) = true) :
    startsWith? (c :: cs) texts = none := by
  refine List.find?_eq_none.2 fun text htext => ?_
  have hfirst := List.all_eq_true.1 h text htext
  cases hd : text.toList with
  | nil => simp [hd] at hfirst
  | cons d ds =>
    have hne : c ≠ d := Posix.ne_of_begins hc (by simpa [hd] using hfirst)
    simp [Ne.symm hne]

/-- What begins with a literal or a quote is a word. -/
theorem plainToken_of_parts (hplain : r.dialect = .plain) (hr : r.rest = c :: cs)
    (hc : c = '"' ∨ Posix.isLiteral c = true)
    (hw : parts commands token r.bound .bare {} r = .ok (w, r'))
    (hend : ∀ c ∈ r'.rest.head?, c = ' ') :
    plainToken commands token r = .ok (.word w, r') := by
  have hline : c ≠ '\n' := Posix.ne_of_begins hc (by decide)
  have hoperators : startsWith? (c :: cs) (operators false) = none :=
    startsWith?_eq_none hc (by decide)
  have hredirections : startsWith? (c :: cs) (redirections false) = none :=
    startsWith?_eq_none hc (by decide)
  have hnext (d : Char) (hd : d ≠ ' ') : r'.rest.head? ≠ some d :=
    fun hhead => hd (hend d hhead)
  have hdialect : r.dialect ≠ .extended := by simp [hplain]
  cases hdescriptor : descriptor? false w with
  | none =>
    simp [plainToken, hr, hdialect, beq_false_of_ne hdialect, hoperators, hredirections, hw,
      hdescriptor, Except.bind, hline]
  | some fd =>
    simp [plainToken, hr, hdialect, beq_false_of_ne hdialect, hoperators, hredirections, hw,
      hdescriptor, Except.bind, hline, hnext '<' (by decide), hnext '>' (by decide)]

theorem skipBlanks_eq (long : r.rest.length < n)
    (hhead : ∀ c ∈ (r.rest.dropWhile (· == ' ')).head?, c = '"' ∨ Posix.isLiteral c = true) :
    skipBlanks n r = .ok ((), { r with rest := r.rest.dropWhile (· == ' ') }) := by
  induction n generalizing r with
  | zero => exact absurd long (Nat.not_lt_zero _)
  | succ n ih =>
    cases hrest : r.rest with
    | nil =>
      have same : r = { r with rest := [] } := by rw [← hrest]
      simpa [skipBlanks, hrest, Except.bind] using same
    | cons c cs =>
      rw [hrest, List.length_cons] at long
      by_cases hspace : c = ' '
      · subst hspace
        have hskip := ih (r := { r with rest := cs }) (by simpa using Nat.lt_of_succ_lt_succ long)
          (by simpa [hrest] using hhead)
        simpa [skipBlanks, hrest, Except.bind] using hskip
      · have hbegins : c = '"' ∨ Posix.isLiteral c = true := by simpa [hrest, hspace] using hhead
        have htab : c ≠ '\t' := Posix.ne_of_begins hbegins (by decide)
        have hbackslash : c ≠ '\\' := Posix.ne_of_begins hbegins (by decide)
        have hmark : c ≠ '#' := Posix.ne_of_begins hbegins (by decide)
        have same : r = { r with rest := c :: cs } := by rw [← hrest]
        simpa [skipBlanks, hrest, Except.bind, hspace, htab, hbackslash, hmark] using same

theorem plainText?_eq_of_spells {value : List Char} {s : String} (h : Spells w value)
    (hs : plainText? w = some s) : s = String.ofList value := by
  cases h with
  | nil => cases hs
  | quoted => cases hs
  | bare _ _ rest =>
    cases rest with
    | nil =>
      cases hs
      simp
    | quoted | bare => cases hs

theorem dropSubstituted_of_isPlain (h : r.IsPlain) : dropSubstituted r = .ok ((), r) := by
  simp [dropSubstituted, h.substituted]

theorem aliasAllowsNext_of_isPlain (h : r.IsPlain) : aliasAllowsNext r = .ok (false, r) := by
  simp [aliasAllowsNext, h.substituted, Except.bind]

theorem readWith_of_plainToken {e : Expectation} {value : List Char} {r'' : Reading}
    (hpushed : r.pushed = none) (hskip : skipBlanks r.bound r = .ok ((), r')) (hplain : r'.IsPlain)
    (htoken : plainToken commands token r' = .ok (.word w, r'')) (hplain' : r''.IsPlain)
    (hspells : Spells w value) (hkeyword : e.keywords = true → String.ofList value ∉ keywords) :
    readWith commands token e (n + 1) r = .ok (.word w, r'') := by
  have hdrop := dropSubstituted_of_isPlain hplain
  have halias := aliasAllowsNext_of_isPlain hplain
  have hdialect : r''.dialect ≠ .extended := by simp [hplain'.dialect]
  cases htext : plainText? w with
  | none => simp [readWith, hpushed, hskip, halias, hdrop, htoken, htext, Except.bind]
  | some s =>
    obtain rfl := plainText?_eq_of_spells hspells htext
    have unreserved : ¬ (e.keywords = true ∧ String.ofList value ∈ keywords) :=
      fun h => hkeyword h.1 h.2
    simp [readWith, hpushed, hskip, halias, hdrop, htoken, htext, Except.bind, hdialect, unreserved,
      hplain'.aliases]

theorem readWith_of_finish {e : Expectation} (hpushed : r.pushed = none)
    (hskip : skipBlanks r.bound r = .ok ((), r')) (hplain : r'.IsPlain) (hrest : r'.rest = []) :
    readWith commands token e (n + 1) r = .ok (.finish, r') := by
  have hdrop := dropSubstituted_of_isPlain hplain
  have halias := aliasAllowsNext_of_isPlain hplain
  have htoken : plainToken commands token r' = .ok (.finish, r') := by
    simp [plainToken, hrest, Except.bind]
  simp [readWith, hpushed, hskip, halias, hdrop, htoken, Except.bind]

theorem read_succ (n : Nat) (e : Expectation) :
    Tokens.read commands (n + 1) e r =
      readWith commands (Tokens.read commands n nothing) e (r.bound + 1) r := by
  rw [Tokens.read]
  exact Parser.get_bind_apply fun r =>
    readWith commands (Tokens.read commands n nothing) e (r.bound + 1)

theorem next_eq (e : Expectation) : next commands e r =
    readWith commands (Tokens.read commands (depth - 1) nothing) e (r.bound + 1) r :=
  read_succ (depth - 1) e

/-- A token that was given back is the next one again. -/
theorem next_of_pushed (commands : Commands) (e : Expectation) (hpushed : r.pushed = some .finish) :
    next commands e r = .ok (.finish, { r with pushed := none }) := by
  rw [next_eq]
  simp [readWith, hpushed, Except.bind]

theorem next_of_pushed_word (commands : Commands) (e : Expectation)
    (hpushed : r.pushed = some (.word w)) (hplain : r.IsPlain) (hkeyword : e.keywords = false) :
    next commands e r = .ok (.word w, { r with pushed := none }) := by
  rw [next_eq]
  cases htext : plainText? w with
  | none => simp [readWith, hpushed, htext, Except.bind]
  | some s => simp [readWith, hpushed, htext, Except.bind, hkeyword, hplain.aliases]

/-- A line that is read gives its words one by one. -/
theorem next_of_reads (commands : Commands) {words : List (List Char)} {last : Posix.Reading}
    (reads : r.rest.foldlM Posix.Reading.read? ⟨.plain, words, none⟩ = some last)
    (closed : last.place = .plain) (long : r.rest.length < r.bound) (hplain : r.IsPlain)
    (hpushed : r.pushed = none) :
    (last.allWords = words ∧ ∀ e, next commands e r = .ok (.finish, { r with rest := [] })) ∨
    ∃ value w rest lines last', Spells w value ∧ w ≠ [] ∧ rest.length < r.rest.length ∧
      rest.foldlM Posix.Reading.read? ⟨.plain, words ++ [value], none⟩ = some last' ∧
      last'.place = .plain ∧ last'.allWords = last.allWords ∧
      ∀ e, (e.keywords = true → String.ofList value ∉ keywords) →
        next commands e r = .ok (.word w, { r with rest, line := r.line + lines }) := by
  rw [← Posix.reads_dropWhile] at reads
  have hlength := (List.dropWhile_sublist (· == ' ') (l := r.rest)).length_le
  cases hinput : r.rest.dropWhile (· == ' ') with
  | nil =>
    rw [hinput] at reads
    cases reads
    refine .inl ⟨by simp [Posix.Reading.allWords], fun e => ?_⟩
    have hskip := skipBlanks_eq long (by simp [hinput])
    rw [hinput] at hskip
    rw [next_eq]
    exact readWith_of_finish hpushed hskip (hplain.goesOn ..) rfl
  | cons c cs =>
    have hspace : c ≠ ' ' := by
      have h := List.head?_dropWhile_not (· == ' ') r.rest
      rw [hinput] at h
      simpa using h
    rw [hinput] at reads hlength
    obtain ⟨hbegins, reads⟩ := Posix.begins_of_reads hspace reads
    have hskip := skipBlanks_eq long (by simpa [hinput] using hbegins)
    rw [hinput] at hskip
    obtain ⟨value, rest, lines, w, hw, hend, spells, reads, hrun⟩ : Ends commands
        (Tokens.read commands (depth - 1) nothing) words last r.bound {} [] [] (c :: cs) :=
      ends_of_reads (by omega) .nil reads closed
    obtain ⟨last', reads', closed', hwords⟩ := Posix.reads_of_ended hend reads closed
    obtain ⟨hne, shorter⟩ : w ≠ [] ∧ rest.length < (c :: cs).length := by
      obtain ⟨-, rfl⟩ | goesOn := hw
      · exact absurd (hend c rfl) hspace
      · exact goesOn
    refine .inr ⟨value, w, rest, lines, last', by simpa using spells, hne, by omega, reads',
      closed', hwords, fun e hkeyword => ?_⟩
    rw [next_eq]
    exact readWith_of_plainToken hpushed hskip (hplain.goesOn ..)
      (plainToken_of_parts hplain.dialect rfl hbegins (hrun _ rfl) hend)
      (hplain.goesOn ..) (by simpa using spells) hkeyword

end Tokens

/-- Words that spell texts, none of them without a part. -/
def SpellAll (ws : List Word) (values : List (List Char)) : Prop :=
  List.Forall₂ (fun w value => Spells w value ∧ w ≠ []) ws values

namespace Grammar

open Tokens

variable {commands : Commands} {line n : Nat} {r r' : Reading} {w : Word} {g : Gathering}
  {c : Command} {value first : List Char} {values : List (List Char)}

/-- No equals sign follows a name in a word of literals, so nothing is assigned. -/
theorem assignment?_of_spells (h : Spells w value) : assignment? false w = none := by
  cases h with
  | nil => rfl
  | quoted => rfl
  | @bare text w value _ literal _ =>
    have hliteral : ∀ c ∈ text.toList.drop (text.toList.takeWhile isNameChar).length,
        Posix.isLiteral c = true := fun c hc => literal c (List.mem_of_mem_drop hc)
    rw [assignment?]
    generalize text.toList.drop (text.toList.takeWhile isNameChar).length = behind at hliteral
    split
    · rfl
    · split
      · exact absurd (hliteral '=' List.mem_cons_self) (by decide)
      · exact absurd (hliteral '+' List.mem_cons_self) (by decide)
      · rfl

theorem simple_of_word (hplain : r.IsPlain) (h : Spells w value)
    (hnext : next commands { aliases := g.words.isEmpty } r = .ok (.word w, r')) :
    simple commands line (n + 1) g r =
      simple commands line n { g with words := w :: g.words } r' := by
  have hdialect : r.dialect ≠ .extended := by simp [hplain.dialect]
  simp [simple, hnext, Except.bind, beq_false_of_ne hdialect, assignment?_of_spells h]

theorem simple_of_finish
    (hnext : next commands { aliases := g.words.isEmpty } r = .ok (.finish, r')) :
    simple commands line (n + 1) g r =
      .ok (.simple line g.assignments.reverse g.words.reverse g.redirections.reverse,
        { r' with pushed := some .finish }) := by
  simp [simple, hnext, Except.bind, push]

/-- What is left when the words of a line are read. -/
def finished (r : Reading) (lines : Nat) : Reading :=
  { r with rest := [], line := r.line + lines, pushed := some .finish }

/-- The words of a line are those of a simple command. -/
theorem simple_of_reads {words : List (List Char)} {last : Posix.Reading}
    (reads : r.rest.foldlM Posix.Reading.read? ⟨.plain, words, none⟩ = some last)
    (closed : last.place = .plain) (long : r.rest.length < r.bound) (hplain : r.IsPlain)
    (hpushed : r.pushed = none) (fuel : r.rest.length < n) :
    ∃ values ws lines, last.allWords = words ++ values ∧ SpellAll ws values ∧
      simple commands line n g r = .ok (.simple line g.assignments.reverse
        (g.words.reverse ++ ws) g.redirections.reverse, finished r lines) := by
  induction n generalizing r g words last with
  | zero => exact absurd fuel (Nat.not_lt_zero _)
  | succ n ih =>
    obtain ⟨hwords, hnext⟩ | ⟨value, w, rest, lines, last', spells, hne, shorter, reads', closed',
      hwords, hnext⟩ := next_of_reads commands reads closed long hplain hpushed
    · exact ⟨[], [], 0, by simp [hwords], .nil, by
        simpa [finished] using simple_of_finish (hnext { aliases := g.words.isEmpty })⟩
    · obtain ⟨values, ws, lines', hwords', hspells, hrun⟩ :=
        ih (r := { r with rest, line := r.line + lines })
          (g := { g with words := w :: g.words }) reads' closed' (Nat.lt_trans shorter long)
          (hplain.goesOn ..) hpushed (Nat.lt_of_lt_of_le shorter (Nat.le_of_lt_succ fuel))
      refine ⟨value :: values, w :: ws, lines + lines', by simp [← hwords, hwords'],
        .cons ⟨spells, hne⟩ hspells, ?_⟩
      rw [simple_of_word hplain spells (hnext { aliases := g.words.isEmpty } nofun), hrun]
      simp [finished, Nat.add_assoc]

theorem command_of_word (hplain : r.IsPlain) (h : Spells w value)
    (hpushed : r.pushed = some (.word w)) :
    command commands nothing r =
      simple commands r.line r.bound { words := [w] } { r with pushed := none } := by
  have hnext := next_of_pushed_word commands nothing hpushed hplain rfl
  have hplain' : Reading.IsPlain { r with pushed := some (.word w) } := hplain.goesOn ..
  have hfirst : simple commands r.line (r.bound + 1) {} { r with pushed := some (.word w) } =
      simple commands r.line r.bound { words := [w] } { r with pushed := none } :=
    simple_of_word hplain' h (next_of_pushed_word _ _ rfl hplain' rfl)
  simpa [command, hnext, Except.bind, push] using hfirst

theorem pipeline_of_command (hplain : r.IsPlain) (hpushed : r.pushed = some (.word w))
    (hcommand : command commands nothing r = .ok (c, r')) (hfinish : r'.pushed = some .finish) :
    pipeline commands nothing r = .ok (c, r') := by
  have hnext := next_of_pushed_word commands nothing hpushed hplain rfl
  have same := r.pushed_self hpushed
  have hrest : pipelineRest commands (r'.bound + 1) [c] r' = .ok ([c], r') := by
    simpa [pipelineRest, next_of_pushed _ _ hfinish, Except.bind, Token.isOperator, push]
      using r'.pushed_self hfinish
  simp [pipeline, hnext, Except.bind, Token.isKeyword, push, same, hcommand, hrest]

theorem andOr_of_pipeline (h : pipeline commands nothing r = .ok (c, r'))
    (hfinish : r'.pushed = some .finish) : andOr commands r = .ok (c, r') := by
  simpa [andOr, h, andOrRest, next_of_pushed _ _ hfinish, Except.bind, Token.isOperator, push]
    using r'.pushed_self hfinish

theorem list_of_word {r'' : Reading}
    (hnext : next commands { keywords := true, aliases := true } r = .ok (.word w, r'))
    (hline : andOr commands { r' with pushed := some (.word w) } = .ok (c, r''))
    (hfinish : r''.pushed = some .finish) :
    list commands .line (n + 1) false none r = .ok (c, r'') := by
  simpa [list, hnext, hline, next_of_pushed _ _ hfinish, Except.bind, Token.isOperator, push, after]
    using r''.pushed_self hfinish

/-- A line of words is one simple command, whose words spell those of the line, as long as the
first of them is no keyword. -/
theorem next?_of_words (hplain : r.IsPlain) (long : r.rest.length < r.bound)
    (hwords : Posix.words? r.rest = some (first :: values))
    (hkeyword : String.ofList first ∉ keywords) :
    ∃ line ws lines, SpellAll ws (first :: values) ∧
      next? r = .ok (.simple line [] ws [], finished { r with awaited := [] } lines) := by
  obtain ⟨last, reads, closed, hall⟩ := Posix.words?_eq_some_iff.1 hwords
  let start : Reading := { r with pushed := none, awaited := [] }
  have hstart : start.IsPlain := ⟨hplain.dialect, hplain.aliases, hplain.substituted⟩
  obtain ⟨hnone, -⟩ | ⟨value, w, rest, lines, last', spells, hne, shorter, reads', closed', hwords',
    hnext⟩ := next_of_reads (r := start) (Grammar.commands r.bound) reads closed long hstart rfl
  · cases hall.symm.trans hnone
  let behind : Reading := { start with rest, line := start.line + lines }
  have hbehind : behind.IsPlain := hstart.goesOn ..
  have fuel : rest.length < r.bound := Nat.lt_trans shorter long
  obtain ⟨values', ws, lines', hvalues, hspells, hrun⟩ : ∃ values' ws lines',
      last'.allWords = [value] ++ values' ∧ SpellAll ws values' ∧
      simple (Grammar.commands r.bound) behind.line r.bound { words := [w] } behind =
        .ok (.simple behind.line [] (w :: ws) [], finished behind lines') :=
    simple_of_reads reads' closed' fuel hbehind rfl fuel
  obtain ⟨rfl, rfl⟩ : first = value ∧ values = values' := by
    rw [← hwords', hvalues] at hall
    simpa using hall.symm
  let given : Reading := { behind with pushed := some (.word w) }
  have hgiven : given.IsPlain := hbehind.goesOn ..
  have hline := andOr_of_pipeline
    (pipeline_of_command hgiven rfl ((command_of_word hgiven spells rfl).trans hrun) rfl) rfl
  have hlist := list_of_word (n := r.bound)
    (hnext { keywords := true, aliases := true } fun _ => hkeyword) hline rfl
  refine ⟨behind.line, w :: ws, lines + lines', .cons ⟨spells, hne⟩ hspells, hlist.trans ?_⟩
  simp [finished, behind, start, Nat.add_assoc]

end Grammar

end Remedy.Shell
