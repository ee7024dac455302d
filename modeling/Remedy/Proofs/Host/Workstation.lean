import Remedy.Host.Installation
import Remedy.Host.Workstation
import Remedy.Proofs.Shell.Run

namespace Remedy.Unix.Machine

open Files

variable (m : Machine) (p : Process)

@[simp] theorem nextPid_place : (m.place p).nextPid = m.nextPid := rfl

@[simp] theorem nextPid_collect : m.collect.nextPid = m.nextPid := rfl

@[simp] theorem nextPid_update (pid : Nat) (f : Process → Process) :
    (m.update pid f).nextPid = m.nextPid := rfl

@[simp] theorem nextPid_finish (exit : Exit) : (m.finish p exit).nextPid = m.nextPid := by
  simp only [finish]
  split <;> rfl

@[simp] theorem nextPid_deliver (s : Signal) : (m.deliver p s).nextPid = m.nextPid := by
  simp only [deliver]
  repeat' split
  all_goals simp

@[simp] theorem nextPid_send (target : Int) (s : Signal) :
    (m.send p target s).2.nextPid = m.nextPid := by
  have reached (ps : List Process) (m : Machine) :
      (ps.foldl (fun m p => m.deliver p s) m).nextPid = m.nextPid := by
    induction ps generalizing m with
    | nil => rfl
    | cons p ps ih => rw [List.foldl_cons, ih, nextPid_deliver]
  simp only [send]
  repeat' split
  all_goals first | rfl | exact reached _ m

@[simp] theorem nextPid_changeFiles (c : Change) :
    (m.changeFiles p c).2.nextPid = m.nextPid := by
  simp only [changeFiles]
  repeat' split
  all_goals rfl

end Remedy.Unix.Machine

namespace Remedy.Host.Workstation

open Unix

def Knows (w : Workstation) (pid : Nat) : Prop := pid < w.machine.nextPid

variable {w : Workstation}

open Shell Text in
/-- The shell performs the tool with its four arguments, and nothing else, whatever stands in the
identifier and in the project. -/
theorem program?_commandLine {m : Machine} (hloader : m.loader = Installation.loader)
    {tool : String} (hne : tool ≠ "") (ht : ∀ c ∈ tool.toList, Posix.isLiteral c = true)
    (hminus : tool.toList.head? ≠ some '-') (hkeyword : tool ∉ Tokens.keywords)
    (packageId : String) (project : ManifestPath) :
    ∃ line : View → Nat,
      program? m (Flavor.posix.command
        (InstallCommand.forShell .posix tool packageId project).commandLine) =
      some (Act.look fun view => Start.interpreter.program
        (Start.performLast (line view)
          ([tool, "add", project.text, "package", packageId].map Octets.ofText))
        (Start.state .plain view "sh" environment)) := by
  obtain ⟨c, cs, htool⟩ := List.exists_cons_of_ne_nil (mt String.toList_eq_nil_iff.1 hne)
  have hascii : Octets.spell tool.toList = tool.toList :=
    Octets.spell_of_lt fun c hc => Posix.toNat_lt_of_isLiteral (ht c hc)
  let command := InstallCommand.forShell .posix tool packageId project
  have htext (s : String) : (Octets.ofText s).toList = Octets.spell s.toList := by
    rw [Octets.ofText_eq, String.toList_ofList]
  have hwords : Posix.words? (Octets.ofText command.commandLine).toList =
      some (([tool, "add", project.text, "package", packageId].map Octets.ofText).map
        String.toList) := by
    simpa only [List.map_cons, List.map_nil, htext] using
      Posix.words?_spell (InstallCommand.words?_commandLine hne ht packageId project)
  have hsign : ∀ d ∈ (Octets.ofText command.commandLine).toList.head?, d ≠ '-' ∧ d ≠ '+' := by
    obtain ⟨rest, hrest⟩ : ∃ rest, command.commandLine.toList = tool.toList ++ rest :=
      ⟨_, by
        simp only [command, InstallCommand.forShell, String.toList_append, List.append_assoc]
        rfl⟩
    rw [htext, hrest, Octets.spell_append, hascii, htool]
    rintro d ⟨⟩
    rw [htool] at hminus ht
    refine ⟨fun hd => hminus (congrArg some hd), ?_⟩
    rintro rfl
    exact absurd (ht '+' List.mem_cons_self) (by decide)
  have hloaded : program? m (Flavor.posix.command command.commandLine) =
      some (Start.program .plain ["sh", "-c", Octets.ofText command.commandLine] environment) := by
    have hshell : Installation.shells.lookup "sh" = some .plain := rfl
    have hname : Octets.ofText "sh" = "sh" := by decide
    have hoption : Octets.ofText "-c" = "-c" := by decide
    simp only [program?, hloader, Flavor.command, Installation.loader, hshell, List.map_cons,
      List.map_nil, hname, hoption]
  obtain ⟨line, hprogram⟩ := Start.program_of_words hsign hwords
    (by rwa [Octets.ofText_eq, hascii, String.ofList_toList]) environment
  exact ⟨line, hloaded.trans (congrArg some hprogram)⟩

end Remedy.Host.Workstation
