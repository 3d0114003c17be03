import ImagePreload.Value

/-!
# Jobs

A job creates objects from templates. Before it does, the images of its objects may be loaded onto
the nodes of a cluster.
-/

namespace ImagePreload

/-- A template with the values of its names. -/
structure ObjectDefinition where
  /-- The name of the template. -/
  template : String
  /-- The text of the template. -/
  source : Value
  inputs : Value
  replicas : Value

structure Job (τ : Type) where
  name : Value
  objects : List ObjectDefinition
  targetNamespace : Value
  /-- Whether the images are loaded beforehand. -/
  preloads : Bool
  /-- How long the nodes are given to load the images. -/
  settlePeriod : τ
  labels : Entries
  annotations : Entries
  nodeLabels : Entries
  /-- Texts in front of every template. -/
  functions : Value

/-- A job with its period told by another clock. -/
def Job.onClock {τ τ' : Type} (seconds : τ → τ') (job : Job τ) : Job τ' :=
  { job with settlePeriod := seconds job.settlePeriod }

end ImagePreload
