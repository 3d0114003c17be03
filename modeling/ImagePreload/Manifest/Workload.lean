import ImagePreload.Manifest.Staging

/-!
# The manifest of the preload workload

Each image is pulled by an init container of its own on every selected node, which does nothing but
say that it is done. One container that only waits keeps the pod around afterwards, so that it is
not started again until it is deleted with its namespace.
-/

namespace ImagePreload

def workloadName : String := "preload"

def appLabel : String := "app"

def pauseImage : String := "registry.k8s.io/pause:3.1"

/-- The pull policy of all containers. -/
def pullPolicy : Value := .text "Always"

/-- The name of the init container of the image at a position. -/
def initName (index : Nat) : String := "container-" ++ toString index

/-- The container that pulls one image. -/
def initContainer (index : Nat) (image : Value) : Value :=
  record
    [("name", .text (initName index)),
      ("image", image),
      ("imagePullPolicy", pullPolicy),
      ("command", .list [.text "echo", .text ("init " ++ initName index ++ " completed")])]

/-- The containers that pull the images, numbered from the given index. -/
def initContainersFrom (index : Nat) : List Value → List Value
  | [] => []
  | image :: images => initContainer index image :: initContainersFrom (index + 1) images

/-- The container that keeps the pod around. -/
def pauseContainer : Value :=
  record
    [("name", .text "sleep"),
      ("image", .text pauseImage),
      ("imagePullPolicy", pullPolicy)]

def appLabels : Value := record [(appLabel, .text workloadName)]

/-- The metadata of the workload; it names the namespace when one is given. -/
def workloadMetadata (namespace? : Option Value) : Value :=
  record <| ("generateName", .text workloadName) ::
    (namespace?.map fun n => [("namespace", n)]).getD []

def workloadManifest (images : List Value) (nodeSelector : Entries)
    (namespace? : Option Value) : Value :=
  record
    [("apiVersion", .text "apps/v1"),
      ("kind", .text "DaemonSet"),
      ("metadata", workloadMetadata namespace?),
      ("spec", record
        [("selector", record [("matchLabels", appLabels)]),
          ("template", record
            [("metadata", record [("labels", appLabels)]),
              ("spec", record
                [("terminationGracePeriodSeconds", .int 0),
                  ("initContainers", .list (initContainersFrom 0 images)),
                  ("containers", .list [pauseContainer]),
                  ("nodeSelector", .map nodeSelector)])])])]

end ImagePreload
