import ImagePreload.Cluster
import ImagePreload.Template.Error
import ImagePreload.Yaml.Error

/-!
# How preloading fails

Each failure says which step it was and what was wrong there. A failure of the cluster that counts
as an answer is taken for a failure of the step; any other one goes through as it is.
-/

namespace ImagePreload

/-- Why a template gives no document. -/
inductive RenderCause where
  | template (e : Template.TemplateError)
  | document (e : Yaml.LoadError)

namespace RenderCause

def kind : RenderCause → ErrorKind
  | .template e => e.kind
  | .document e => e.kind

def message : RenderCause → String
  | .template e => e.message
  | .document e => e.message

end RenderCause

inductive PreloadFailure where
  | render (template : String) (cause : RenderCause)
  /-- An image that is an integer with too many digits to be written. -/
  | longImage
  | namespaceCreate (name : String) (cause : ClusterFailure)
  | workloadCreate (name : String) (cause : ClusterFailure)
  | listing (selector : Selector) (cause : ClusterFailure)
  | deletion (selector : Selector) (failed : List (String × ClusterFailure))
  | timeout (remaining : List String)
  | waiting (selector : Selector) (cause : ClusterFailure)
  /-- A failure of a request that is no answer of the cluster. -/
  | raised (cause : ClusterFailure)

/-- A selector in messages. -/
def Selector.text (s : Selector) : String := Option.getD s "None"

/-- Names between commas. -/
def joinNames (names : List String) : String := ", ".intercalate names

namespace PreloadFailure

def kind : PreloadFailure → ErrorKind
  | .render .. => .own .render
  | .longImage => .value
  | .namespaceCreate .. => .own .namespaceCreate
  | .workloadCreate .. => .own .workloadCreate
  | .listing .. | .deletion .. | .timeout _ | .waiting .. => .own .cleanup
  | .raised cause => cause.kind

/-- What stands in front of the cause when a template cannot be rendered. -/
def renderPrefix (template : String) : String :=
  "Rendering of template " ++ template ++ " failed: "

def message : PreloadFailure → String
  | .render template cause => renderPrefix template ++ cause.message
  | .longImage => tooManyDigitsMessage
  | .namespaceCreate name cause =>
    "Pre-load: Creation of namespace " ++ name ++ " failed: " ++ cause.message
  | .workloadCreate name cause =>
    "Pre-load: Creation of DaemonSet in namespace " ++ name ++ " failed: " ++ cause.message
  | .listing selector cause =>
    "Pre-load: Listing of namespaces with selector " ++ selector.text ++ " failed: "
      ++ cause.message
  | .deletion selector failed =>
    "Pre-load: Deletion of namespaces with selector " ++ selector.text ++ " failed: "
      ++ "; ".intercalate (failed.map fun (name, cause) => name ++ ": " ++ cause.message)
  | .timeout remaining =>
    "Pre-load: Timeout waiting for namespace(s) " ++ joinNames remaining ++ " to be deleted."
  | .waiting selector cause =>
    "Pre-load: Waiting for namespaces with selector " ++ selector.text
      ++ " to be deleted failed: " ++ cause.message
  | .raised cause => cause.message

end PreloadFailure

end ImagePreload
