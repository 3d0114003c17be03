import ImagePreload.Program.Run

/-!
# Scripted clusters

A script says in advance how a cluster answers, and how long every request takes. Answers are used
up one by one; a request for which none is left succeeds, and a listing finds what the last one
found, at once.
-/

namespace ImagePreload

/-- Success, or a failure. -/
abbrev ScriptedAnswer := Option ClusterFailure

structure Script (τ : Type) where
  createNamespace : List ScriptedAnswer
  createWorkload : List ScriptedAnswer
  delete : List (String × List ScriptedAnswer)
  list : List Reply
  /-- What the last listing found. -/
  lastFound : List String
  /-- How long every request takes. -/
  callTime : τ

namespace Script

variable {τ : Type}

/-- A script without any answers. -/
def empty (callTime : τ) : Script τ := ⟨[], [], [], [], [], callTime⟩

def replyOf : ScriptedAnswer → Reply
  | none => .ok []
  | some f => .error f

/-- The first answer and the others. -/
def next : List ScriptedAnswer → Reply × List ScriptedAnswer
  | [] => (.ok [], [])
  | a :: rest => (replyOf a, rest)

/-- The next answer for the deletion of a name. -/
def nextDelete (name : String) :
    List (String × List ScriptedAnswer) → Reply × List (String × List ScriptedAnswer)
  | [] => (.ok [], [])
  | (n, answers) :: rest =>
    if n == name then
      let (reply, answers) := next answers
      (reply, (n, answers) :: rest)
    else
      let (reply, rest) := nextDelete name rest
      (reply, (n, answers) :: rest)

def answer : Answerer (Script τ) τ := fun request s =>
  match request with
  | .createNamespace _ =>
    let (reply, rest) := next s.createNamespace
    (some s.callTime, reply, { s with createNamespace := rest })
  | .createWorkload _ =>
    let (reply, rest) := next s.createWorkload
    (some s.callTime, reply, { s with createWorkload := rest })
  | .delete name =>
    let (reply, rest) := nextDelete name s.delete
    (some s.callTime, reply, { s with delete := rest })
  | .list _ =>
    match s.list with
    | [] => (none, .ok s.lastFound, s)
    | .ok names :: rest => (some s.callTime, .ok names, { s with list := rest, lastFound := names })
    | .error f :: rest => (some s.callTime, .error f, { s with list := rest })

end Script

end ImagePreload
