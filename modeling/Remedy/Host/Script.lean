import Remedy.Dialogue

namespace Remedy.Host

open Registry (Candidate SearchError)

structure Script where
  searches : List (Except SearchError (List Candidate)) := []
  projects : List (Except Failure (List ManifestPath)) := []
  picks : List (Option String) := []
  refusesLaunch : Bool := false

namespace Script

def nextReply (absent : α) : List α → α × List α
  | [] => (absent, [])
  | [reply] => (reply, [reply])
  | reply :: rest => (reply, rest)

def refusal (task : Task) : Failure := .launch task.name "launch refused by fake"

def host : Host Script where
  search _ s :=
    let (reply, searches) := nextReply (.ok []) s.searches
    (reply, { s with searches })
  findProjects s :=
    let (reply, projects) := nextReply (.ok []) s.projects
    (reply, { s with projects })
  prompt _ _ s := (s.picks.head?.join, { s with picks := s.picks.tail })
  notify _ s := s
  launch task s := (if s.refusesLaunch then .error (refusal task) else .ok (), s)

end Script

end Remedy.Host
