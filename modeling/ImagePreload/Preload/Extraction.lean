import ImagePreload.Job
import ImagePreload.Preload.Failure
import ImagePreload.Program
import ImagePreload.Template.Render
import ImagePreload.WorkloadKind
import ImagePreload.Yaml.Document

/-!
# The images of a job

The templates of a job are rendered in order and their documents looked through for images. Images
are kept in order, repeated ones too. Objects of a kind without images are passed over; the first
template that cannot be rendered ends it.
-/

namespace ImagePreload

/-- How a template is rendered: from its text, the values of names, and the texts in front. -/
abbrev Renderer := Value → Value → Value → Except Template.TemplateError String

/-- The document that an object's template gives. -/
def ObjectDefinition.document (render : Renderer) (functions : Value) (o : ObjectDefinition) :
    Except RenderCause Value := do
  let text ← (render o.source o.inputs functions).mapError .template
  (Yaml.load text).mapError .document

/-- The kind of an object and its images, if it has a kind that may have any. -/
def ObjectDefinition.images? (render : Renderer) (functions : Value) (o : ObjectDefinition) :
    Except PreloadFailure (Option (WorkloadKind × List String)) := do
  let document ← (o.document render functions).mapError (.render o.template)
  match WorkloadKind.ofDocument? document with
  | none => return none
  | some kind =>
    if kind.hasLongImage document then throw .longImage
    else return some (kind, kind.images document)

def skippedMessage (template : String) : String :=
  "Skipping template " ++ template ++ ", no images to extract from its kind."

def foundMessage (count : Nat) (kind : WorkloadKind) (template : String) : String :=
  "Found " ++ toString count ++ " image(s) in " ++ kind.name ++ " template " ++ template ++ "."

variable {τ : Type}

/-- The images of objects in order. -/
def extractFrom (render : Renderer) (functions : Value) :
    List ObjectDefinition → Program PreloadFailure τ (List String)
  | [] => .succeed []
  | o :: rest =>
    match o.images? render functions with
    | .error e => .fail e
    | .ok none => .note .debug (skippedMessage o.template) (extractFrom render functions rest)
    | .ok (some (kind, images)) =>
      .note .debug (foundMessage images.length kind o.template)
        ((extractFrom render functions rest).bind fun more => .succeed (images ++ more))

/-- The images of a job's objects in order. -/
def Job.extractImages (render : Renderer) (job : Job τ) : Program PreloadFailure τ (List String) :=
  extractFrom render job.functions job.objects

end ImagePreload
