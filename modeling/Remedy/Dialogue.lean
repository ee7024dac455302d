import Remedy.Install
import Remedy.Registry.Candidate

namespace Remedy

open Registry (Candidate SearchError)

inductive Notice where
  | info (text : String)
  | error (text : String)
deriving DecidableEq, Repr

inductive Call where
  | search (query : String)
  | findProjects
  | prompt (items : List String) (placeholder : String)
  | notify (notice : Notice)
  | launch (task : Task) (accepted : Bool)
deriving DecidableEq, Repr

/-- A computation that calls on the host before it ends with a result. -/
inductive Dialogue (α : Type) where
  | done (result : α)
  | search (query : String) (next : Except SearchError (List Candidate) → Dialogue α)
  | findProjects (next : Except Failure (List ManifestPath) → Dialogue α)
  | prompt (items : List String) (placeholder : String) (next : Option String → Dialogue α)
  | notify (notice : Notice) (next : Unit → Dialogue α)
  | launch (task : Task) (next : Except Failure Unit → Dialogue α)

/-- How a host answers; every answer may depend on all calls before it through the state. -/
structure Host (σ : Type) where
  search : String → σ → Except SearchError (List Candidate) × σ
  findProjects : σ → Except Failure (List ManifestPath) × σ
  prompt : List String → String → σ → Option String × σ
  notify : Notice → σ → σ
  launch : Task → σ → Except Failure Unit × σ

structure Transcript (σ α : Type) where
  result : α
  calls : List Call
  host : σ
deriving Repr

namespace Dialogue

def bind {α β : Type} (d : Dialogue α) (f : α → Dialogue β) : Dialogue β :=
  match d with
  | done a => f a
  | search query next => search query fun r => (next r).bind f
  | findProjects next => findProjects fun r => (next r).bind f
  | prompt items placeholder next => prompt items placeholder fun r => (next r).bind f
  | notify notice next => notify notice fun r => (next r).bind f
  | launch task next => launch task fun r => (next r).bind f

instance : Monad Dialogue where
  pure := done
  bind := bind

def ofSearch (query : String) : Dialogue (Except SearchError (List Candidate)) :=
  search query done

def ofFindProjects : Dialogue (Except Failure (List ManifestPath)) := findProjects done

def ofPrompt (items : List String) (placeholder : String) : Dialogue (Option String) :=
  prompt items placeholder done

def say (notice : Notice) : Dialogue Unit := notify notice done

def ofLaunch (task : Task) : Dialogue (Except Failure Unit) := launch task done

def run (host : Host σ) : Dialogue α → σ → Transcript σ α
  | done a, s => ⟨a, [], s⟩
  | search query next, s =>
    let (r, s) := host.search query s
    let t := (next r).run host s
    { t with calls := .search query :: t.calls }
  | findProjects next, s =>
    let (r, s) := host.findProjects s
    let t := (next r).run host s
    { t with calls := .findProjects :: t.calls }
  | prompt items placeholder next, s =>
    let (r, s) := host.prompt items placeholder s
    let t := (next r).run host s
    { t with calls := .prompt items placeholder :: t.calls }
  | notify notice next, s =>
    let t := (next ()).run host (host.notify notice s)
    { t with calls := .notify notice :: t.calls }
  | launch task next, s =>
    let (r, s) := host.launch task s
    let t := (next r).run host s
    { t with calls := .launch task r.isOk :: t.calls }

@[simp] theorem pure_eq (a : α) : (pure a : Dialogue α) = done a := rfl

@[simp] theorem bind_eq (d : Dialogue α) (f : α → Dialogue β) : (d >>= f) = d.bind f := rfl

@[simp] theorem done_bind (a : α) (f : α → Dialogue β) : (done a).bind f = f a := rfl

theorem bind_assoc (d : Dialogue α) (f : α → Dialogue β) (g : β → Dialogue γ) :
    (d.bind f).bind g = d.bind fun a => (f a).bind g := by
  induction d with
  | done => rfl
  | search _ _ ih | findProjects _ ih | prompt _ _ _ ih | notify _ _ ih | launch _ _ ih =>
    simp [bind, ih]

theorem run_bind (host : Host σ) (d : Dialogue α) (f : α → Dialogue β) (s : σ) :
    (d.bind f).run host s =
      let t := d.run host s
      let u := (f t.result).run host t.host
      ⟨u.result, t.calls ++ u.calls, u.host⟩ := by
  induction d generalizing s with
  | done => rfl
  | search _ _ ih | findProjects _ ih | prompt _ _ _ ih | notify _ _ ih | launch _ _ ih =>
    simp [bind, run, ih]

end Dialogue

end Remedy
