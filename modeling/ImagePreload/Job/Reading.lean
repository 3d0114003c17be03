import ImagePreload.Job
import ImagePreload.Job.Failure

/-!
# Reading a job

A job is read from its section of a configuration. Its templates are read from files, which are
looked for in the configuration's directory. The first thing that is wrong ends it: the name comes
first, then the objects in order, the texts in front of the templates, and the other options.
-/

namespace ImagePreload

namespace Job

open Config

/-- The text of a template. -/
def readTemplate (files : Files) (baseDirectory path : String) : Except JobFailure String :=
  let fullPath := Files.join baseDirectory path
  (files.readText fullPath).mapError (.template fullPath)

/-- An option of a job. -/
def option (options : Section) (name : String) (inquiry : Inquiry) :
    Except JobFailure Value := do
  return (← (options.get name inquiry).mapError .option).value

/-- The name of a section behind which other names are put. -/
def sectionName (options : Section) : String := options.fullName.getD "None"

/-- One of a job's objects. -/
def readObject (files : Files) (baseDirectory : String) (objectsName : String) (index : Nat)
    (object : Value) : Except JobFailure ObjectDefinition := do
  let template ← option ⟨object, none⟩ "objectTemplate"
    { wanted := some (.one .text), within := some objectsName, position := some index }
  let source ← readTemplate files baseDirectory template.display
  let inputs ← (((object.field? "inputVars").getD (.map [])).entries).mapError .inputs
  return ⟨template.display, .text source, .map inputs, (object.field? "replicas").getD (.int 1)⟩

/-- A text in front of every template. -/
def readFunction (files : Files) (baseDirectory : String) : Value → Except JobFailure Value
  | .text path => do return .text (← readTemplate files baseDirectory path)
  | v => .error (.pathType v.typeName)

def entriesOf : Value → Entries
  | .map entries => entries
  | _ => []

/-- The entries of an option that is a mapping. -/
def labelsOption (options : Section) (name : String) : Except JobFailure Entries := do
  return entriesOf
    (← option options name { default := some (.map []), wanted := some (.one .map) })

def itemsOf : Value → List Value
  | .list items => items
  | _ => []

/-- The items of an option that is a list. -/
def listOption (options : Section) (name : String) : Except JobFailure (List Value) := do
  return itemsOf
    (← option options name { default := some (.list []), wanted := some (.one .list) })

/-- The seconds of an option that is a duration. -/
def durationOption (options : Section) (name default : String) : Except JobFailure Float := do
  let text ← option options name
    { default := some (.text default), wanted := some (.one .text) }
  (parseDuration text.display).mapError (.duration (sectionName options ++ "." ++ name))

/-- The job of a section. -/
def ofSection (files : Files) (baseDirectory : String) (options : Section) :
    Except JobFailure (Job Number) := do
  let name ← option options "name" { wanted := some (.one .text) }
  let objects ← (← listOption options "objects").zipIdx.mapM fun (object, index) =>
    readObject files baseDirectory (sectionName options ++ ".objects") index object
  let functions ← (← listOption options "functionTemplates").mapM
    (readFunction files baseDirectory)
  let targetNamespace ← option options "namespace" { default := some .null }
  let preloads ← option options "preLoadImages"
    { default := some (.bool false), wanted := some (.one .bool) }
  let settlePeriod ← durationOption options "preLoadPeriod" "1m"
  let labels ← labelsOption options "namespaceLabels"
  let annotations ← labelsOption options "namespaceAnnotations"
  let nodeLabels ← labelsOption options "preLoadNodeLabels"
  return { name, objects, targetNamespace, preloads := preloads.truthy,
           settlePeriod := .float settlePeriod, labels, annotations, nodeLabels,
           functions := .list functions }

/-- The paths of the files that a job's section names, whether they can be read or not. -/
def pathsIn (baseDirectory : String) (v : Value) : List String :=
  let templates := (v.listAt "objects").filterMap (·.field? "objectTemplate")
  (templates ++ v.listAt "functionTemplates").filterMap fun
    | .text path => some (Files.join baseDirectory path)
    | _ => none

/-- What is said about a job that was read. -/
def loadedMessage {τ : Type} (job : Job τ) : String :=
  "Loaded job " ++ job.name.display ++ " with " ++ toString job.objects.length ++ " object(s)."

end Job

end ImagePreload
