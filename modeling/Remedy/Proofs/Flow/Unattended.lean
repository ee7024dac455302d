import Mathlib
import Remedy.Host.Terminal
import Remedy.Proofs.Flow.Transition
import Remedy.Proofs.Host.Workstation
import Remedy.Proofs.Workspace.First

namespace Remedy

open Registry (Candidate SearchError)
open Files Workspace
open Host (Picker Terminal Workstation)

namespace Flow

namespace IsUnattended

variable {host : Host σ} {found : Except Failure (List ManifestPath)} {accepts : Task → Bool}
  {holds : σ → Prop} {s s' : σ}

end IsUnattended

section Text

variable {fs : FileSystem} (hnamed : fs.root.WellNamed) (htext : fs.root.InText)
  {l : Locator} {cwd : List Name} {accepts : Task → Bool}
  {reply : Except SearchError (List Candidate)}

include hnamed htext

end Text

end Flow

namespace Host.Terminal

/-- The terminals differ in nothing but what was printed, searched for and watched. -/
structure Resembles (t t' : Terminal) : Prop where
  directory : t.runner.directory = t'.runner.directory
  base : t.runner.state.base = t'.runner.state.base
  files : t.world.files = t'.world.files
  loader : t.runner.state.machine.loader = t'.runner.state.machine.loader

theorem Resembles.notify (h : Resembles t t') (notice : Notice) :
    Resembles (t.notify notice) t' := by
  cases notice with
  | info text | error text => exact ⟨h.directory, h.base, h.files, h.loader⟩

theorem Resembles.search (h : Resembles t t') (query : String) :
    Resembles (t.search query).2 t' := by
  rw [Terminal.search.eq_def]
  split
  · exact h
  · exact h
  · exact ⟨h.directory, h.base, h.files, h.loader⟩

end Host.Terminal

end Remedy
