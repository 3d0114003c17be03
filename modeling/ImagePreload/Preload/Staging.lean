import ImagePreload.Clock
import ImagePreload.Manifest.Staging
import ImagePreload.Preload.Failure
import ImagePreload.Program
import ImagePreload.Value.Display

/-!
# Staging namespaces

A staging namespace holds the workload that loads images. A sweep deletes every namespace that the
selector finds, whoever created it, and waits until all of them are gone.

A sweep goes on past deletions that fail and reports all of them together. A namespace that is gone
already when its turn comes is no failure, for another sweep may have been faster.
-/

namespace ImagePreload

variable {τ : Type}

/-- The failure of a step, if the cluster answered that it failed; anything else goes through. -/
def ClusterFailure.as (f : ClusterFailure) (step : ClusterFailure → PreloadFailure) :
    PreloadFailure :=
  if f.isAnswer then step f else .raised f

/-- Creates a staging namespace. -/
def createStaging (name : String) (labels annotations : Entries) :
    Program PreloadFailure τ Unit :=
  .note .debug
    ("Creating staging namespace " ++ name ++ " with labels "
      ++ (Value.map (markedLabels labels)).quoted ++ ".")
    (.ask (.createNamespace (stagingManifest (.text name) labels annotations)) fun
      | .ok _ => .succeed ()
      | .error f => .fail (f.as (.namespaceCreate name)))

/-- How namespaces are swept. -/
structure Sweep (τ : Type) where
  selector : Selector
  timeout : τ
  interval : τ

/-- A sweep with its times told by another clock. -/
def Sweep.onClock {τ' : Type} (seconds : τ → τ') (s : Sweep τ) : Sweep τ' :=
  ⟨s.selector, seconds s.timeout, seconds s.interval⟩

/-- Deletes namespaces one after the other; the result is those whose deletion failed. -/
def deleteAll : List String → Program PreloadFailure τ (List (String × ClusterFailure))
  | [] => .succeed []
  | name :: names =>
    .note .info ("Deleting namespace " ++ name ++ ".") (.ask (.delete name) fun
      | .ok _ => deleteAll names
      | .error f =>
        if !f.isAnswer then .fail (.raised f)
        else if f.isNotFound then
          .note .debug ("Namespace " ++ name ++ " is already gone.") (deleteAll names)
        else
          .note .error ("Deletion of namespace " ++ name ++ " failed: " ++ f.message)
            ((deleteAll names).bind fun failed => .succeed ((name, f) :: failed)))

/-- The namespaces found again that the sweep is about. -/
def Sweep.remaining (s : Sweep τ) (names : List String)
    (next : List String → Program PreloadFailure τ Unit) : Program PreloadFailure τ Unit :=
  .ask (.list s.selector) fun
    | .ok found => next (found.filter names.contains)
    | .error f => .fail (f.as (.waiting s.selector))

/-- Waits until namespaces are gone, for a number of rounds. -/
def Sweep.wait [Clock τ] (s : Sweep τ) (names : List String) (deadline : τ) :
    Nat → List String → Program PreloadFailure τ Unit
  | _, [] => .succeed ()
  | rounds, remaining =>
    .clock fun now =>
      if Clock.reached now deadline then .fail (.timeout remaining)
      else
        match rounds with
        | 0 => .unfinished
        | rounds + 1 =>
          .note .debug
            ("Waiting for namespace(s) " ++ joinNames remaining ++ " to be deleted.")
            (.sleep s.interval (s.remaining names (s.wait names deadline rounds)))

/-- Deletes the namespaces that the selector finds and waits until they are gone. The result is
their names. -/
def Sweep.run [Clock τ] (s : Sweep τ) : Program PreloadFailure τ (List String) :=
  .clock fun start =>
    let deadline := Clock.after start s.timeout
    .ask (.list s.selector) fun
      | .error f => .fail (f.as (.listing s.selector))
      | .ok names =>
        (deleteAll names).bind fun failed =>
          if !failed.isEmpty then .fail (.deletion s.selector failed)
          else if names.isEmpty then .succeed names
          else
            (s.remaining names (s.wait names deadline (Clock.rounds s.timeout s.interval))).bind
              fun _ => .succeed names

/-- The time a sweep may take, in seconds, unless it is given. -/
def defaultTimeout : Number := .int 300

/-- The seconds between two looks at what remains. -/
def defaultInterval : Number := .int 2

/-- A sweep of the namespaces that carry the marker. -/
def markerSweep (timeout : Number) : Sweep Number :=
  ⟨some markerSelector, timeout, defaultInterval⟩

end ImagePreload
