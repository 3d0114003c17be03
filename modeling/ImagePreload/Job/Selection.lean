import ImagePreload.Config
import ImagePreload.Job.Reading
import ImagePreload.Program

/-!
# Selecting jobs

All jobs of a configuration are selected, or those of given names. They come in the order of the
configuration, whatever the order of the names. No file is read before all names are known, and none
of a job that is not selected.
-/

namespace ImagePreload

namespace Config

/-- The configuration as a section without a name. -/
def root (c : Config) : Section := ⟨c.options, none⟩

/-- The sections of all jobs. -/
def jobSections (c : Config) : Except JobFailure (List Section) := do
  let jobs ← Job.option c.root "jobs" { wanted := some (.one .list) }
  return (Job.itemsOf jobs).zipIdx.map fun (job, index) =>
    ⟨job, some ("jobs." ++ toString index)⟩

end Config

/-- The name of a job's section. -/
def Config.Section.jobName (s : Config.Section) : Except JobFailure Value :=
  (Config.Section.follow "name" s.value ["name"]).mapError .option

/-- Whether a name is one of some texts. -/
def isOneOf (names : List String) : Value → Bool
  | .text name => names.contains name
  | _ => false

/-- The sections of the jobs of given names, or of all jobs. -/
def selectSections (c : Config) (names : List String) :
    Except JobFailure (List Config.Section) := do
  let sections ← c.jobSections
  let known ← sections.mapM (·.jobName)
  let unknown := names.filter fun name => !known.any (isOneOf [name])
  if !unknown.isEmpty then throw (.unknown unknown)
  return if names.isEmpty then sections
    else ((sections.zip known).filter fun (_, name) => isOneOf names name).map (·.1)

variable {τ : Type}

/-- Reads jobs in order. -/
def readJobs (files : Files) (baseDirectory : String) :
    List Config.Section → Program JobFailure τ (List (Job Number))
  | [] => .succeed []
  | s :: rest =>
    match Job.ofSection files baseDirectory s with
    | .error e => .fail e
    | .ok job =>
      .note .debug job.loadedMessage
        ((readJobs files baseDirectory rest).bind fun jobs => .succeed (job :: jobs))

/-- The jobs of given names, or all jobs. -/
def selectJobs (files : Files) (c : Config) (names : List String) :
    Program JobFailure τ (List (Job Number)) :=
  match selectSections c names with
  | .error e => .fail e
  | .ok sections => readJobs files c.baseDirectory sections

end ImagePreload
