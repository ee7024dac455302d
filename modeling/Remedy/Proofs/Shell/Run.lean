import Remedy.Proofs.Shell.Line
import Remedy.Shell.Start

namespace Remedy.Shell

open Unix

namespace ShellM

variable {s : State}

theorem bind_apply (p : ShellM α) (f : α → ShellM β) (next : Except Jump β × State → Program) :
    (p >>= f) s next = p s fun
      | (.ok a, s) => f a s next
      | (.error e, s) => next (.error e, s) := by
  refine congrArg (p s) (funext fun answer => ?_)
  obtain ⟨_ | _, _⟩ := answer <;> rfl

theorem get_apply (next : Except Jump State × State → Program) :
    (get : ShellM State) s next = next (.ok s, s) := rfl

theorem modify_apply (f : State → State) (next : Except Jump Unit × State → Program) :
    (modify f : ShellM Unit) s next = next (.ok (), f s) := rfl

theorem caught_apply (p : ShellM α) (next : Except Jump (Except Jump α) × State → Program) :
    caught p s next = p s fun (r, s) => next (.ok r, s) := rfl

theorem bind_congr {p q : ShellM α} (f : α → ShellM β) (h : p s = q s) :
    (p >>= f) s = (q >>= f) s := by
  funext next
  rw [bind_apply, bind_apply, h]

/-- A step without a value may be followed by a look at the state. -/
theorem bind_get_of_unit (p : ShellM Unit) (f : State → α) :
    (do let _ ← (do p; return f (← get)) : ShellM Unit) s = p s := by
  funext next
  rw [bind_apply, bind_apply]
  refine congrArg (p s) (funext fun answer => ?_)
  obtain ⟨_ | _, _⟩ := answer <;> rfl

end ShellM

namespace Expansion

variable {run : Runner} {w : Word} {value : List Char} {n : Nat} {c : Char}

/-- The pieces of a literal. -/
def ofPart : Part → List Piece
  | .literal text quoted => written quoted text
  | _ => []

theorem mapM_eq_pure {m : Type → Type} [Monad m] [LawfulMonad m] {f : α → m β} {g : γ → β}
    {l : List α} {k : List γ} (h : List.Forall₂ (fun x y => f x = pure (g y)) l k) :
    l.mapM f = pure (k.map g) := by
  induction h with
  | nil => simp
  | cons hhead _ ih => simp [hhead, ih]

theorem tilde_of_literal {text : String} (h : ∀ c ∈ text.toList, Posix.isLiteral c = true)
    (isAssignment isLast : Bool) :
    tilde isAssignment isLast text = pure (written false text) := by
  rw [tilde]
  split
  · next cs htext => exact absurd (h '~' (by rw [htext]; exact List.mem_cons_self)) (by decide)
  · rfl

theorem literal_of_mem (h : Spells w value) {p : Part} (hp : p ∈ w) :
    (∃ text, p = .literal text true) ∨
      ∃ text, p = .literal text false ∧ ∀ c ∈ text.toList, Posix.isLiteral c = true := by
  induction h with
  | nil => cases hp
  | quoted text _ ih =>
    obtain rfl | hp := List.mem_cons.1 hp
    · exact .inl ⟨text, rfl⟩
    · exact ih hp
  | bare _ literal _ ih =>
    obtain rfl | hp := List.mem_cons.1 hp
    · exact .inr ⟨_, rfl, literal⟩
    · exact ih hp

theorem parts_of_spells (h : Spells w value) :
    parts run (n + 1) {} w = pure (w.flatMap ofPart) := by
  rw [parts, mapM_eq_pure (g := fun q => ofPart q.1) (k := w.zipIdx)]
  · have same : w.zipIdx.map (fun q => ofPart q.1) = w.map ofPart := by
      conv_rhs => rw [← List.zipIdx_map_fst 0 w, List.map_map]
      rfl
    rw [pure_bind, same, List.flatMap]
  · refine List.forall₂_same.2 ?_
    rintro ⟨p, i⟩ hp
    obtain ⟨text, rfl⟩ | ⟨text, rfl, literal⟩ := literal_of_mem h (List.fst_mem_of_mem_zipIdx hp)
    · rfl
    · simp [tilde_of_literal literal, ofPart]

/-- A piece at which no word is cut. -/
def Piece.IsWhole (p : Piece) : Prop := p = .mark ∨ ∃ c quoted, p = .char c quoted false

theorem foldl_add {ps : List Piece} (separators : List Char) (cut : Cut)
    (h : ∀ p ∈ ps, p.IsWhole) :
    let cut' := ps.foldl (Cut.add separators) cut
    cut'.fields = cut.fields ∧ cut'.isBegun = (cut.isBegun || !ps.isEmpty) ∧
      glyphs cut'.current.reverse = glyphs cut.current.reverse ++ glyphs ps := by
  induction ps generalizing cut with
  | nil => simp [glyphs]
  | cons p ps ih =>
    rw [List.forall_mem_cons] at h
    obtain ⟨hp, hps⟩ := h
    obtain ⟨hfields, hbegun, hglyphs⟩ := ih (cut.add separators p) hps
    rw [List.foldl_cons]
    obtain rfl | ⟨c, quoted, rfl⟩ := hp
    · exact ⟨hfields, by simpa [Cut.add] using hbegun, by simpa [Cut.add, glyphs] using hglyphs⟩
    · exact ⟨hfields, by simpa [Cut.add] using hbegun, by simpa [Cut.add, glyphs] using hglyphs⟩

theorem glyphs_written (quoted : Bool) (text : String) :
    glyphs (written quoted text) = text.toList.map (·, quoted) := by
  cases quoted <;> simp [written, glyphs]

theorem isWhole_of_written {quoted : Bool} {text : String} {p : Piece}
    (hp : p ∈ written quoted text) : p.IsWhole := by
  cases quoted with
  | false =>
    obtain ⟨c, -, rfl⟩ := List.mem_map.1 hp
    exact .inr ⟨c, false, rfl⟩
  | true =>
    obtain rfl | hp := List.mem_cons.1 hp
    · exact .inl rfl
    · obtain ⟨c, -, rfl⟩ := List.mem_map.1 hp
      exact .inr ⟨c, true, rfl⟩

theorem isWhole_of_spells (h : Spells w value) {p : Piece} (hp : p ∈ w.flatMap ofPart) :
    p.IsWhole := by
  obtain ⟨part, hpart, hp⟩ := List.mem_flatMap.1 hp
  obtain ⟨text, rfl⟩ | ⟨text, rfl, -⟩ := literal_of_mem h hpart
  · exact isWhole_of_written hp
  · exact isWhole_of_written hp

theorem glyphs_append (ps ps' : List Piece) : glyphs (ps ++ ps') = glyphs ps ++ glyphs ps' :=
  List.filterMap_append

theorem glyphs_of_spells (h : Spells w value) :
    (glyphs (w.flatMap ofPart)).map (·.1) = value ∧
      ∀ g ∈ glyphs (w.flatMap ofPart), g.2 = false → Posix.isLiteral g.1 = true := by
  induction h with
  | nil => exact ⟨rfl, nofun⟩
  | quoted text _ ih =>
    rw [List.flatMap_cons, glyphs_append, ofPart, glyphs_written, List.map_append, ih.1]
    refine ⟨by simp [Function.comp_def], fun g hg => ?_⟩
    obtain hg | hg := List.mem_append.1 hg
    · obtain ⟨c, -, rfl⟩ := List.mem_map.1 hg
      exact nofun
    · exact ih.2 g hg
  | bare _ literal _ ih =>
    rw [List.flatMap_cons, glyphs_append, ofPart, glyphs_written, List.map_append, ih.1]
    refine ⟨by simp [Function.comp_def], fun g hg => ?_⟩
    obtain hg | hg := List.mem_append.1 hg
    · obtain ⟨c, hc, rfl⟩ := List.mem_map.1 hg
      exact fun _ => literal c hc
    · exact ih.2 g hg

theorem flatMap_ofPart_ne_nil (h : Spells w value) (hne : w ≠ []) : w.flatMap ofPart ≠ [] := by
  cases h with
  | nil => exact absurd rfl hne
  | quoted => exact List.cons_ne_nil _ _
  | bare nonempty =>
    simp [ofPart, written, nonempty]

/-- Pieces of literals are not cut. -/
theorem cut_of_spells (h : Spells w value) (hne : w ≠ []) (separators : String) :
    ∃ field, Cut.run separators (w.flatMap ofPart) = [field] ∧
      glyphs field = glyphs (w.flatMap ofPart) := by
  have hpieces := flatMap_ofPart_ne_nil h hne
  obtain ⟨hfields, hbegun, hglyphs⟩ :=
    foldl_add separators.toList {} fun _ hp => isWhole_of_spells h hp
  refine ⟨((w.flatMap ofPart).foldl (Cut.add separators.toList) {}).current.reverse, ?_,
    by simpa [glyphs] using hglyphs⟩
  simp [Cut.run, hbegun, hpieces, Cut.finish, hfields]

theorem text_eq (field : List Piece) : text field = String.ofList ((glyphs field).map (·.1)) := by
  rw [text, glyphs, List.map_filterMap]
  congr 2
  funext p
  cases p <;> rfl

theorem isActive_of_literal {glyphs : List Glyph}
    (h : ∀ g ∈ glyphs, g.2 = false → Posix.isLiteral g.1 = true) :
    Pattern.isActive glyphs = false := by
  rw [Pattern.isActive, List.any_eq_false]
  rintro ⟨c, quoted⟩ hg
  cases quoted with
  | true => simp
  | false =>
    have hliteral := h _ hg rfl
    intro hactive
    simp only [Bool.not_false, Bool.true_and, Bool.or_eq_true, beq_iff_eq] at hactive
    obtain (rfl | rfl) | rfl := hactive <;> cases hliteral

theorem general_of_spells (h : Spells w value) (hne : w ≠ []) :
    fields.general run w = pure [String.ofList value] := by
  funext s next
  obtain ⟨field, hcut, hglyphs⟩ := cut_of_spells h hne s.separators
  obtain ⟨hvalue, hliteral⟩ := glyphs_of_spells h
  rw [← hglyphs] at hvalue hliteral
  rw [fields.general, depth, show 2000 = 1999 + 1 from rfl, parts_of_spells h, pure_bind,
    ShellM.bind_apply, ShellM.get_apply]
  simp [hcut, text_eq, isActive_of_literal hliteral, Pattern.text, hvalue]

theorem alternatives_of_spells (h : Spells w value) (d : Dialect) : alternatives d w = [w] := by
  rw [alternatives]
  refine if_neg fun hboth => ?_
  obtain ⟨p, hp, hbrace⟩ := List.any_eq_true.1 (Bool.and_eq_true_iff.1 hboth).2
  obtain ⟨text, rfl⟩ | ⟨text, rfl, literal⟩ := literal_of_mem h hp
  · cases hbrace
  · exact absurd (literal _ (List.contains_iff_mem.1 hbrace)) (by decide)

/-- Words that spell texts are expanded to these, without a question to the system. -/
theorem fields_of_spells {ws : List Word} {values : List (List Char)} (h : SpellAll ws values) :
    fields run ws = pure (values.map String.ofList) := by
  funext s next
  have hws : ws.flatMap (alternatives s.dialect) = ws := by
    induction h with
    | nil => rfl
    | cons hw _ ih => rw [List.flatMap_cons, alternatives_of_spells hw.1, ih, List.singleton_append]
  rw [fields, ShellM.bind_apply, ShellM.get_apply]
  simp only [hws]
  rw [mapM_eq_pure (g := fun value => [String.ofList value]) (k := values)]
  · rw [pure_bind, ← List.flatMap_def, ← List.map_eq_flatMap]
  · refine h.imp fun w value hw => ?_
    split
    · next text =>
      split
      · exact general_of_spells hw.1 hw.2
      · obtain ⟨hspells, -⟩ := hw
        cases hspells with
        | bare _ _ rest =>
          cases rest
          simp
    · exact general_of_spells hw.1 hw.2

end Expansion

namespace Interpreter

/-- A text of words is evaluated as one simple command. -/
theorem runText_of_words (i : Interpreter) (flags : Flags) {s : State} {text : String}
    {first : List Char} {values : List (List Char)} (hdialect : s.dialect = .plain)
    (haliases : s.aliases = []) (hsilent : s.isOn 'v' = false)
    (hwords : Posix.words? text.toList = some (first :: values))
    (hkeyword : String.ofList first ∉ Tokens.keywords) :
    ∃ line ws, SpellAll ws (first :: values) ∧ i.runText text flags s =
      (do i.evaluate (.simple line [] ws []) flags; return (← get).status : ShellM Nat) s := by
  have hbegins : Grammar.isAtEnd (reading s text) = false := by
    cases htext : text.toList with
    | nil =>
      rw [htext] at hwords
      cases hwords
    | cons => simp [Grammar.isAtEnd, reading, htext]
  have hplain : Reading.IsPlain
      { reading s text with aliases := s.aliases, nextDocument := s.nextDocument } :=
    ⟨hdialect, haliases, rfl⟩
  obtain ⟨line, ws, lines, spells, hnext⟩ :=
    Grammar.next?_of_words hplain (Nat.lt_succ_self _) hwords hkeyword
  refine ⟨line, ws, spells, funext fun next => ?_⟩
  rw [runText, ShellM.bind_apply, ShellM.get_apply]
  dsimp only
  rw [runLines, hbegins]
  simp only [Bool.false_eq_true, if_false, ShellM.bind_apply, ShellM.get_apply, hnext]
  simp only [Grammar.finished, reading, List.nil_append, hsilent, Bool.false_eq_true, if_false,
    Bool.and_true, runLines, Grammar.isAtEnd, if_true, ShellM.bind_apply, ShellM.modify_apply]
  rfl

end Interpreter

namespace Evaluation

variable {ws : List Word} {values : List (List Char)}

/-- It does not matter whether the words are those of a declaration. -/
theorem expandWords_of_spells {run : Expansion.Runner} (h : SpellAll ws values) :
    expandWords run ws = pure (values.map String.ofList) := by
  induction h with
  | nil => rfl
  | @cons w value ws values hw hws ih =>
    have hfirst : Expansion.fields run [w] = pure [String.ofList value] :=
      Expansion.fields_of_spells (.cons hw .nil)
    have hrest : Expansion.fields run ws = pure (values.map String.ofList) :=
      Expansion.fields_of_spells hws
    have hdeclared : ws.mapM (declaring run) = pure (values.map ([String.ofList ·])) := by
      refine Expansion.mapM_eq_pure (hws.imp fun w value hw => ?_)
      rw [declaring, Grammar.assignment?_of_spells hw.1]
      exact Expansion.fields_of_spells (.cons hw .nil)
    have hflat : (values.map ([String.ofList ·])).flatten = values.map String.ofList := by
      rw [← List.flatMap_def, ← List.map_eq_flatMap]
    funext s next
    rw [expandWords, hfirst, pure_bind]
    dsimp only
    rw [ShellM.bind_apply, ShellM.get_apply]
    dsimp only
    split
    · simp [hdeclared, hflat]
    · split
      · simp [ih]
      · simp [hrest]

/-- A command of words that spell texts performs these, and nothing else. -/
theorem simple_of_spells (i : Interpreter) (line : Nat) (flags : Flags) (h : SpellAll ws values) :
    simple i line [] ws [] flags = (do
      modify ({ · with line, substituted := 0 })
      perform i flags [] (values.map String.ofList)) := by
  funext s next
  rw [simple, expandWords_of_spells h]
  simp [ShellM.bind_apply, ShellM.get_apply, ShellM.modify_apply]

theorem evaluate_simple (n : Nat) {s : State} (hruns : s.isOn 'n' = false) (line : Nat)
    (flags : Flags) (h : SpellAll ws values) :
    evaluate (n + 1) (.simple line [] ws []) flags s =
      (do
        modify ({ · with line, substituted := 0 })
        perform { evaluate := evaluate n } flags [] (values.map String.ofList)
        after { evaluate := evaluate n } flags true : ShellM Unit) s := by
  funext next
  simp [evaluate, simple_of_spells _ _ _ h, hruns, ShellM.bind_apply, ShellM.get_apply]

end Evaluation

namespace Start

open Unix

/-- Performs words as the last command of a shell. -/
def performLast (line : Nat) (words : List String) : ShellM Unit := do
  let i : Interpreter := { evaluate := Evaluation.evaluate (depth - 1) }
  let flags : Flags := { exits := true }
  modify ({ · with line, substituted := 0 })
  Evaluation.perform i flags [] words
  Evaluation.after i flags true

theorem read_text {text : String} (hsign : ∀ c ∈ text.toList.head?, c ≠ '-' ∧ c ≠ '+') :
    Invocation.read .plain ["-c", text] = .ok ⟨.text text, none, [], {}⟩ := by
  have hoption : Invocation.readOptions .plain (["-c", text].length + 1) ["-c", text] {} false =
      Invocation.readOptions .plain 2 [text] {} true := rfl
  have hrest : Invocation.readOptions .plain 2 [text] {} true = .ok ({}, true, [text]) := by
    cases htext : text.toList with
    | nil => simp [Invocation.readOptions, htext]
    | cons c cs =>
      obtain ⟨hminus, hplus⟩ := hsign c (by rw [htext]; rfl)
      cases cs with
      | nil => simp [Invocation.readOptions, htext, hminus]
      | cons d cs => simp [Invocation.readOptions, htext, hminus, hplus]
  rw [Invocation.read, hoption, hrest]
  rfl

theorem run_text {s : State} (text : String) (hdialect : s.dialect = .plain)
    (hpositional : s.positional = []) :
    run .plain ⟨.text text, none, [], {}⟩ s =
      (do let _ ← interpreter.runText text { exits := true } : ShellM Unit) s := by
  cases s
  subst hdialect hpositional
  rfl

theorem run_of_words {s : State} {text first : String} {values : List String}
    (hdialect : s.dialect = .plain) (haliases : s.aliases = []) (hoptions : s.options = [])
    (hpositional : s.positional = [])
    (hwords : Posix.words? text.toList = some ((first :: values).map String.toList))
    (hkeyword : first ∉ Tokens.keywords) :
    ∃ line, run .plain ⟨.text text, none, [], {}⟩ s = performLast line (first :: values) s := by
  have hoff (letter : Char) : s.isOn letter = false := by simp [State.isOn, hoptions]
  obtain ⟨line, ws, spells, htext⟩ := Interpreter.runText_of_words interpreter { exits := true }
    hdialect haliases (hoff 'v') hwords (by rwa [String.ofList_toList])
  have hwhole : run .plain ⟨.text text, none, [], {}⟩ s =
      interpreter.evaluate (.simple line [] ws []) { exits := true } s := by
    rw [run_text text hdialect hpositional]
    exact (ShellM.bind_congr _ htext).trans (ShellM.bind_get_of_unit _ State.status)
  have hevaluated := Evaluation.evaluate_simple (depth - 1) (hoff 'n') line { exits := true } spells
  have hsame : (first.toList :: values.map String.toList).map String.ofList = first :: values := by
    simp
  rw [hsame] at hevaluated
  exact ⟨line, hwhole.trans hevaluated⟩

theorem program_congr (i : Interpreter) {step step' : ShellM Unit} {s : State}
    (h : step s = step' s) : i.program step s = i.program step' s := by
  simp only [Interpreter.program, ShellM.bind_apply, ShellM.caught_apply, h]

/-- A shell that is given a text of words performs these, and nothing else. -/
theorem program_of_words {text first : String} {values : List String}
    (hsign : ∀ c ∈ text.toList.head?, c ≠ '-' ∧ c ≠ '+')
    (hwords : Posix.words? text.toList = some ((first :: values).map String.toList))
    (hkeyword : first ∉ Tokens.keywords) (environment : List (String × String)) :
    ∃ line : View → Nat, program .plain ["sh", "-c", text] environment = Act.look fun view =>
      interpreter.program (performLast (line view) (first :: values))
        (state .plain view "sh" environment) := by
  have hrun (view : View) : ∃ line, run .plain ⟨.text text, none, [], {}⟩
      (state .plain view "sh" environment) =
        performLast line (first :: values) (state .plain view "sh" environment) :=
    run_of_words rfl rfl rfl rfl hwords hkeyword
  choose line hline using hrun
  refine ⟨line, congrArg Act.look (funext fun view => program_congr _ ?_)⟩
  simpa [read_text hsign] using hline view

end Start

end Remedy.Shell
