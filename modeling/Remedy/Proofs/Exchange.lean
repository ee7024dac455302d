import Remedy.Dialogue

namespace Remedy

open Registry (Candidate SearchError)

inductive Exchange where
  | search (query : String) (reply : Except SearchError (List Candidate))
  | findProjects (reply : Except Failure (List ManifestPath))
  | prompt (items : List String) (placeholder : String) (answer : Option String)
  | notify (notice : Notice)
  | launch (task : Task) (reply : Except Failure Unit)

namespace Exchange

def call : Exchange → Call
  | search query _ => .search query
  | findProjects _ => .findProjects
  | prompt items placeholder _ => .prompt items placeholder
  | notify notice => .notify notice
  | launch task reply => .launch task reply.isOk

end Exchange

namespace Host

def Answer (host : Host σ) (s : σ) : Exchange → σ → Prop
  | .search query reply, s' => host.search query s = (reply, s')
  | .findProjects reply, s' => host.findProjects s = (reply, s')
  | .prompt items placeholder answer, s' => host.prompt items placeholder s = (answer, s')
  | .notify notice, s' => host.notify notice s = s'
  | .launch task reply, s' => host.launch task s = (reply, s')

/-- The host gives these answers one after another. -/
def Answers (host : Host σ) : σ → List Exchange → σ → Prop
  | s, [], s' => s = s'
  | s, e :: es, s' => ∃ s₁, host.Answer s e s₁ ∧ host.Answers s₁ es s'

end Host

namespace Dialogue

/-- What is said when a dialogue is held with a host. -/
def exchanges (host : Host σ) : Dialogue α → σ → List Exchange
  | done _, _ => []
  | search query next, s =>
    let (r, s) := host.search query s
    .search query r :: (next r).exchanges host s
  | findProjects next, s =>
    let (r, s) := host.findProjects s
    .findProjects r :: (next r).exchanges host s
  | prompt items placeholder next, s =>
    let (r, s) := host.prompt items placeholder s
    .prompt items placeholder r :: (next r).exchanges host s
  | notify notice next, s => .notify notice :: (next ()).exchanges host (host.notify notice s)
  | launch task next, s =>
    let (r, s) := host.launch task s
    .launch task r :: (next r).exchanges host s

theorem calls_run (host : Host σ) (d : Dialogue α) (s : σ) :
    (d.run host s).calls = (d.exchanges host s).map Exchange.call := by
  induction d generalizing s with
  | done => rfl
  | search _ _ ih | findProjects _ ih | prompt _ _ _ ih | notify _ _ ih | launch _ _ ih =>
    simp [run, exchanges, Exchange.call, ih]

theorem exchanges_bind (host : Host σ) (d : Dialogue α) (f : α → Dialogue β) (s : σ) :
    (d.bind f).exchanges host s =
      d.exchanges host s ++ (f (d.run host s).result).exchanges host (d.run host s).host := by
  induction d generalizing s with
  | done => rfl
  | search _ _ ih | findProjects _ ih | prompt _ _ _ ih | notify _ _ ih | launch _ _ ih =>
    simp [bind, run, exchanges, ih]

theorem answers_exchanges (host : Host σ) (d : Dialogue α) (s : σ) :
    host.Answers s (d.exchanges host s) (d.run host s).host := by
  induction d generalizing s with
  | done => rfl
  | search _ _ ih | findProjects _ ih | prompt _ _ _ ih | notify _ _ ih | launch _ _ ih =>
    exact ⟨_, rfl, ih _ _⟩

/-- With these exchanges, whatever host they are with, the dialogue ends with a result. -/
inductive Ends : Dialogue α → List Exchange → α → Prop
  | done : Ends (.done a) [] a
  | search (h : Ends (next reply) es a) :
      Ends (.search query next) (.search query reply :: es) a
  | findProjects (h : Ends (next reply) es a) :
      Ends (.findProjects next) (.findProjects reply :: es) a
  | prompt (h : Ends (next answer) es a) :
      Ends (.prompt items placeholder next) (.prompt items placeholder answer :: es) a
  | notify (h : Ends (next ()) es a) :
      Ends (.notify notice next) (.notify notice :: es) a
  | launch (h : Ends (next reply) es a) :
      Ends (.launch task next) (.launch task reply :: es) a

theorem Ends.bind {d : Dialogue α} {f : α → Dialogue β} (h : d.Ends es a)
    (h' : (f a).Ends es' b) : (d.bind f).Ends (es ++ es') b := by
  induction h with
  | done => exact h'
  | search _ ih => exact .search (ih h')
  | findProjects _ ih => exact .findProjects (ih h')
  | prompt _ ih => exact .prompt (ih h')
  | notify _ ih => exact .notify (ih h')
  | launch _ ih => exact .launch (ih h')

theorem Ends.run_eq {d : Dialogue α} (h : d.Ends es a) {host : Host σ}
    (ha : host.Answers s es s') : d.run host s = ⟨a, es.map Exchange.call, s'⟩ := by
  induction h generalizing s with
  | done =>
    cases ha
    rfl
  | search _ ih | findProjects _ ih | prompt _ ih | notify _ ih | launch _ ih =>
    obtain ⟨s₁, h₁, h₂⟩ := ha
    simp only [Host.Answer] at h₁
    simp [run, h₁, ih h₂, Exchange.call]

end Dialogue

end Remedy
