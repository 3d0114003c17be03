import ImagePreload.Manifest.Workload
import ImagePreload.Preload.Extraction
import ImagePreload.Preload.Staging

/-!
# Preloading

The images of a job are loaded by a workload in a staging namespace. The nodes are given a while to
load them, then all staging namespaces are swept. Whether the images were loaded is not looked at.

As soon as the namespace exists, a sweep follows: at the end, or at once when the workload cannot be
created.
-/

namespace ImagePreload

variable {τ : Type}

structure PreLoader (τ : Type) where
  render : Renderer
  /-- The name of the staging namespace. -/
  staging : String
  sweep : Sweep τ

namespace PreLoader

/-- Creates the workload that loads images. -/
def createWorkload (p : PreLoader τ) (images : List String) (nodeLabels : Entries) :
    Program PreloadFailure τ Unit :=
  .ask (.createWorkload
      (workloadManifest (images.map .text) nodeLabels (some (.text p.staging)))) fun
    | .ok _ => .succeed ()
    | .error f => .fail (f.as (.workloadCreate p.staging))

/-- Sweeps all staging namespaces. -/
def cleanup [Clock τ] (p : PreLoader τ) : Program PreloadFailure τ (List String) := p.sweep.run

/-- A sweep whose own failure to clean up is only noted. -/
def cleanupQuietly [Clock τ] (p : PreLoader τ) : Program PreloadFailure τ Unit :=
  p.cleanup.andThen fun
    | .ok _ => .succeed ()
    | .error e =>
      if e.kind == .own .cleanup then .note .error e.message (.succeed ()) else .fail e

def workloadMessage (images : List String) (staging : String) : String :=
  "Pre-load: Creating DaemonSet using images "
    ++ (Value.list (images.map .text)).quoted ++ " in namespace " ++ staging

/-- Creates the workload; if that fails, sweeps before it gives up. -/
def startWorkload [Clock τ] (p : PreLoader τ) (images : List String) (nodeLabels : Entries) :
    Program PreloadFailure τ Unit :=
  .note .info (workloadMessage images p.staging)
    ((p.createWorkload images nodeLabels).andThen fun
      | .ok _ => .succeed ()
      | .error e =>
        if e.kind == .own .workloadCreate then p.cleanupQuietly.bind fun _ => .fail e
        else .fail e)

/-- Loads the images of a job. -/
def preloadImages [Clock τ] (p : PreLoader τ) (job : Job τ) : Program PreloadFailure τ Unit :=
  .note .info ("Pre-load: images from job " ++ job.name.display)
    ((job.extractImages p.render).bind fun images =>
      if images.isEmpty then
        .note .info "No images found to pre-load, continuing" (.succeed ())
      else
        (createStaging p.staging job.labels job.annotations).bind fun _ =>
          (p.startWorkload images job.nodeLabels).bind fun _ =>
            .note .info ("Pre-load: Sleeping for " ++ Clock.text job.settlePeriod ++ "s")
              (.sleep job.settlePeriod (p.cleanup.bind fun _ => .succeed ())))

/-- Loads the images of the jobs that want it, in order. -/
def preloadJobs [Clock τ] (p : PreLoader τ) : List (Job τ) → Program PreloadFailure τ Unit
  | [] => .succeed ()
  | job :: jobs =>
    if job.preloads then (p.preloadImages job).bind fun _ => p.preloadJobs jobs
    else
      .note .debug ("Pre-load is disabled for job " ++ job.name.display ++ ", skipping.")
        (p.preloadJobs jobs)

end PreLoader

end ImagePreload
