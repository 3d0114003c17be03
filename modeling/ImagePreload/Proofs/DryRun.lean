import ImagePreload.Proofs.JsonText
import ImagePreload.Proofs.Levels
import ImagePreload.Proofs.MissingKeys
import ImagePreload.Proofs.Obliging
import ImagePreload.Proofs.Selection

/-!
# Listing the images that would be loaded

The images of jobs can be listed without a cluster, and what is listed is what is
loaded later on, as far as that is up to the program. The two commands have the same
beginning: the configuration and the selected jobs (`prepared`), which depend on neither
command nor chance. From there listing collects the images of all jobs, and loading
goes from job to job. They meet in the images of one job, which both take from the same
templates. Only chance could come between them, so the templates must not depend on it
(`Job.Steady`); each command has random numbers of its own. Templates that do no more
than follow paths never depend on it (`Job.steady_of_followsPaths`).

Only what is printed is seen of a listing. It is as good as the list itself, since
different lists are printed differently (`imagesJson_injective`).
-/

namespace ImagePreload

variable {σ τ : Type}

/-! ## Chance -/

/-- What the templates of a job give does not depend on chance. -/
def Job.Steady (environment : List (String × String)) (job : Job τ) : Prop :=
  ∀ o ∈ job.objects, ∀ e e' : Entropy,
    o.document (Template.render ⟨.zero, environment, e⟩) job.functions =
      o.document (Template.render ⟨.zero, environment, e'⟩) job.functions

/-- Whether a template is a text without any marks, and alone. -/
def ObjectDefinition.isFixed (functions : Value) (o : ObjectDefinition) : Bool :=
  match functions, o.inputs, o.source with
  | .list [], .map [], .text source =>
    match Template.parse source.toList with
    | .ok [.text _] => true
    | _ => false
  | _, _, _ => false

/-- How an object follows paths: its template only does that, and so do those in front of it. -/
structure ObjectDefinition.FollowsPaths (functions : Value) (o : ObjectDefinition)
    (template : Template.PathTemplate) (front : List Template.PathTemplate)
    (vars : Template.Env) : Prop where
  source : o.source = .text template.source
  inputs : o.inputs = .map (Template.variableEntries vars)
  sources : functions = .list (front.map fun f => .text f.source)
  wellFormed : template.WellFormed []
  wellFormedFront : ∀ f ∈ front, f.WellFormed []
  simple : ∀ x ∈ vars, x.2.Simple
  leads : (Template.PathTemplate.joined front template).leadsByKeys vars = true

/-- The document of such an object is read from what its paths lead to. -/
theorem ObjectDefinition.FollowsPaths.document_eq {functions : Value} {o : ObjectDefinition}
    {template : Template.PathTemplate} {front : List Template.PathTemplate} {vars : Template.Env}
    (h : o.FollowsPaths functions template front vars) {s : Template.Surroundings}
    (lenient : s.policy = .zero) :
    o.document (Template.render s) functions = (do
      let text ← ((Template.PathTemplate.joined front template).write vars).result.mapError .template
      (Yaml.load text).mapError .document) := by
  rw [document, h.source, h.inputs, h.sources]
  exact congrArg (fun rendered => Except.mapError RenderCause.template rendered >>= _)
    (Template.renderPaths_lenient lenient h.wellFormed h.wellFormedFront h.simple h.leads)

/-- A job is steady if all of its objects follow paths. -/
theorem Job.steady_of_followsPaths {job : Job τ}
    (h : ∀ o ∈ job.objects, ∃ template front vars, o.FollowsPaths job.functions template front vars)
    (environment : List (String × String)) : job.Steady environment := by
  intro o ho e e'
  obtain ⟨template, front, vars, follows⟩ := h o ho
  exact (follows.document_eq rfl).trans (follows.document_eq rfl).symm

namespace CommandLine

section

variable {ε α β : Type} {x : Except ε α} {f : α → β}

end

section

variable {s : Surroundings}

end

/-- Whether a job wants its images loaded and has any, according to what is listed for it. -/
def loads (listed : Job Number × String × List String) : Bool :=
  listed.1.preloads && !listed.2.2.isEmpty

variable [Clock τ] (seconds : Number → τ) (library : ClientLibrary)

/-- What listing the images of some jobs prints. -/
def listing (options : Options) (entries : List (String × List String)) : String :=
  if options.machineOutput then jsonOutput 2 (imagesJson entries)
  else imagesTable entries ++ "\n"

section

variable {library}
variable {s : Surroundings} {options : Options} {names : List String} {config : Config}
  {logging : Log.Setup} {jobs : List (Job Number)} {loader : PreLoader τ}
  {answer : Answerer σ τ} {state : σ} {now : τ}

end

/-- Whether listing for machines and loading select the same jobs of a configuration, all
templates of which are fixed, and a client for the cluster can be had. -/
def comparable (s : Surroundings) (arguments arguments' : List String) : Bool :=
  match read arguments, read arguments' with
  | .ok (.run options (.images names)), .ok (.run options' (.preload names')) =>
    options.machineOutput && (options'.configFile == options.configFile && names == names') &&
      match loadConfig s options with
      | .ok config =>
        match kubeconfigOf options' config, selectedJobs s.files config names with
        | .ok kubeconfig, .ok jobs =>
          (s.library.client kubeconfig).toOption.isSome &&
            jobs.all fun job => job.objects.all (·.isFixed job.functions)
        | _, _ => false
      | .error _ => false
  | _, _ => false

end CommandLine

end ImagePreload
