import Remedy.CommandLine.Arguments

namespace Remedy.CommandLine

open Environment (word64?)

theorem exists_of_bind_eq_ok {x : Except ε α} {f : α → Except ε β} (h : x >>= f = .ok b) :
    ∃ a, x = .ok a ∧ f a = .ok b := by
  cases x with
  | error => cases h
  | ok a => exact ⟨a, rfl, h⟩

section Levels

variable {specs : List OptionSpec} {of : Option Subcommand} {stopAtOperand : Bool} {most : Nat}
  {given given' : Given} {operands args : List String} {l : Level} {next? : Option Setting}
  {P : Given → Prop}

theorem add_eq_ok {setting : Setting} {value : String}
    (h : add given of setting value = .ok given') :
    given' = (setting, value) :: given ∧ isValue setting value = true := by
  rw [add.eq_def] at h
  split at h
  · cases h
  · cases h
  · split at h
    · cases h
    · next hvalue =>
      rw [Bool.or_eq_true, not_or, Bool.not_eq_true', Bool.not_eq_false] at hvalue
      cases h
      exact ⟨rfl, hvalue.2⟩

/-- The property stays when a setting is added. -/
def IsKept (of : Option Subcommand) (P : Given → Prop) : Prop :=
  ∀ given setting value given', P given → add given of setting value = .ok given' → P given'

theorem IsKept.map (hP : IsKept of P) (h : P given) {setting : Setting} {value : String}
    (ha : (add given of setting value).map (·, (none : Option Setting)) = .ok (given', next?)) :
    P given' := by
  cases hadd : add given of setting value with
  | error => simp [hadd, Except.map] at ha
  | ok added =>
    simp only [hadd, Except.map, Except.ok.injEq, Prod.mk.injEq] at ha
    exact ha.1 ▸ hP _ _ _ _ h hadd

theorem IsKept.shorts (hP : IsKept of P) {cs : List Char} (h : P given)
    (hs : shorts specs of given cs = .ok (given', next?)) : P given' := by
  fun_induction CommandLine.shorts specs of given cs with
  | case1 | case3 =>
    cases hs
    exact h
  | case2 => cases hs
  | case4 | case5 => exact hP.map h hs
  | case6 given c rest spec _ _ ih =>
    obtain ⟨added, hadd, hs⟩ := exists_of_bind_eq_ok hs
    exact ih added (hP _ _ _ _ h hadd) hs

theorem IsKept.long (hP : IsKept of P) {cs : List Char} (h : P given)
    (hl : long specs of given cs = .ok (given', next?)) : P given' := by
  rw [CommandLine.long] at hl
  split at hl
  · cases hl
  · split at hl
    · cases hl
      exact h
    · exact hP.map h hl
  · split at hl
    · exact hP.map h hl
    · cases hl

theorem IsKept.level (hP : IsKept of P) (h : P given)
    (hl : level specs of stopAtOperand most given operands args = .ok l) : P l.given := by
  fun_induction CommandLine.level specs of stopAtOperand most given operands args with
  | case1 | case2 | case10 =>
    cases hl
    exact h
  | case3 | case4 | case6 | case7 | case9 | case12 => cases hl
  | case5 given operands arg rest _ _ given₁ ho ih =>
    have hgiven : P given₁ := by
      split at ho
      · exact hP.long h ho
      · exact hP.shorts h ho
    exact ih hgiven hl
  -- the option takes the next argument for its value
  | case8 given operands arg _ _ given₁ setting ho value rest _ given₂ hadd ih =>
    have hgiven : P given₁ := by
      split at ho
      · exact hP.long h ho
      · exact hP.shorts h ho
    exact ih (hP _ _ _ _ hgiven hadd) hl
  | case11 given operands arg rest _ _ _ _ ih => exact ih h hl

/-- Everything given is a value of its setting. -/
def AreValues (given : Given) : Prop := ∀ e ∈ given, isValue e.1 e.2 = true

theorem isKept_areValues (of : Option Subcommand) : IsKept of AreValues := by
  intro given setting value given' h ha
  obtain ⟨rfl, hvalue⟩ := add_eq_ok ha
  exact List.forall_mem_cons.2 ⟨hvalue, h⟩

theorem areValues_level
    (h : level specs of stopAtOperand most [] [] args = .ok l) : AreValues l.given :=
  (isKept_areValues of).level (fun _ he => absurd he List.not_mem_nil) h

end Levels

/-- A run that is asked for, before the environment is looked at. -/
structure Invocation where
  /-- What is given in front of the subcommand. -/
  root : Given
  /-- What is given behind it. -/
  sub : Given
  command : Subcommand
  diagnostics : String
  symbol : String

namespace Invocation

def given (i : Invocation) : Given := i.sub ++ i.root

/-- The run in an environment, which is looked at for what is not given. -/
def arguments (i : Invocation) (env : Environment) : Arguments where
  workspace := (i.given.lookup .workspace).getD defaultWorkspace
  registryUrl := (i.given.lookup .registryUrl).or env.searchUrl
  maxResults := ((i.given.lookup .maxResults).or env.maxResults).bind word64?
  tool := (i.given.lookup .tool).or env.tool
  manifestExtension := (i.given.lookup .manifestExtension).or env.manifestExtension
  pickFirst := (i.given.lookup .pickFirst).isSome
  command := i.command
  diagnostics := i.diagnostics
  language := (i.given.lookup .language).getD defaultLanguage
  symbol := i.symbol

end Invocation

/-- The arguments ask for the run, whatever the environment is. -/
inductive Asks (args : List String) : Invocation → Prop
  | intro (hroot : level (globalOptions ++ [versionOption]) none true 0 [] [] args =
        .ok ⟨root, operands, name :: rest⟩)
      (hname : Subcommand.ofName? name = some command)
      (hsub : level (globalOptions ++ command.options) (some command) false command.operands [] []
        rest = .ok sub)
      (hsymbol : (if command = .search then sub.operands.head? else some "") = some symbol)
      (hdiagnostics : (if command.options.contains diagnosticsOption then
        (sub.given ++ root).lookup .diagnostics else some "") = some diagnostics) :
      Asks args ⟨root, sub.given, command, diagnostics, symbol⟩

variable {env : Environment} {args : List String} {a : Arguments}

theorem ofName?_help : Subcommand.ofName? "help" = none := by decide

theorem helpTopic_ne_ok (topics : List String) : helpTopic topics ≠ .ok a := by
  rw [helpTopic.eq_def]
  split
  · simp
  · split <;> simp
  · simp

theorem parse_eq_ok_iff :
    parse env args = .ok a ↔
      ∃ i, Asks args i ∧ refusesEnvironment env i.root i.sub = false ∧ a = i.arguments env := by
  constructor
  · intro h
    rw [parse] at h
    obtain ⟨⟨root, operands, rest⟩, hroot, h⟩ := exists_of_bind_eq_ok h
    dsimp only at h
    split at h
    · cases h
    · exact absurd h (helpTopic_ne_ok _)
    · next name rest _ =>
      split at h
      · cases h
      · next command hname =>
        obtain ⟨sub, hsub, h⟩ := exists_of_bind_eq_ok h
        split at h
        · next symbol diagnostics hsymbol hdiagnostics =>
          split at h
          · cases h
          · next hrefuses =>
            cases h
            exact ⟨_, .intro hroot hname hsub hsymbol hdiagnostics,
              Bool.eq_false_iff.2 hrefuses, rfl⟩
        · cases h
  · rintro ⟨_, ⟨hroot, hname, hsub, hsymbol, hdiagnostics⟩, hrefuses, rfl⟩
    simp only [parse, hroot, bind, Except.bind]
    split
    · next heq => cases heq
    · next heq =>
      cases heq
      rw [ofName?_help] at hname
      cases hname
    · next heq =>
      cases heq
      simp only [hname, hsub, hsymbol, hdiagnostics, hrefuses]
      rfl

end Remedy.CommandLine
