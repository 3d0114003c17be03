import ImagePreload.Value.Display
import ImagePreload.Value.Lookup

/-!
# Workload kinds and the images in them

A rendered document declares its kind, and the kind says where in the document the images stand: in
the containers of a pod, of a pod template, or in the disks among the volumes of a virtual machine.

A kind that wraps a pod template keeps a container without image as an empty text, so that the
images line up with the containers. The other kinds leave such items out.
-/

namespace ImagePreload

inductive WorkloadKind where
  | deployment
  | daemonSet
  | replicaSet
  | job
  | statefulSet
  | pod
  | virtualMachineInstance
  | virtualMachine
  | virtualMachineInstanceReplicaSet
  deriving DecidableEq, Repr

namespace WorkloadKind

def all : List WorkloadKind :=
  [.deployment, .daemonSet, .replicaSet, .job, .statefulSet, .pod, .virtualMachineInstance,
    .virtualMachine, .virtualMachineInstanceReplicaSet]

def name : WorkloadKind → String
  | .deployment => "Deployment"
  | .daemonSet => "DaemonSet"
  | .replicaSet => "ReplicaSet"
  | .job => "Job"
  | .statefulSet => "StatefulSet"
  | .pod => "Pod"
  | .virtualMachineInstance => "VirtualMachineInstance"
  | .virtualMachine => "VirtualMachine"
  | .virtualMachineInstanceReplicaSet => "VirtualMachineInstanceReplicaSet"

/-- The kind a value names. -/
def ofValue? : Value → Option WorkloadKind
  | .text s => all.find? (·.name == s)
  | _ => none

/-- The kind a document declares. -/
def ofDocument? (document : Value) : Option WorkloadKind :=
  (document.field? "kind").bind ofValue?

/-- Where the items with images stand in a document of this kind. -/
def itemsPath : WorkloadKind → String
  | .deployment | .daemonSet | .replicaSet | .job | .statefulSet =>
    "spec.template.spec.containers"
  | .pod => "spec.containers"
  | .virtualMachineInstance => "spec.volumes"
  | .virtualMachine | .virtualMachineInstanceReplicaSet => "spec.template.spec.volumes"

/-- Where the image stands in an item. -/
def imagePath : WorkloadKind → String
  | .virtualMachineInstance | .virtualMachine | .virtualMachineInstanceReplicaSet =>
    "containerDisk.image"
  | _ => "image"

/-- Whether an item without image counts. -/
def keepsEmpty : WorkloadKind → Bool
  | .deployment | .daemonSet | .replicaSet | .job | .statefulSet => true
  | _ => false

/-- The image of an item as a value, null when there is none. -/
def imageValue (kind : WorkloadKind) (item : Value) : Value :=
  (item.lookup? kind.imagePath).getD .null

/-- The image of an item, empty when there is none. -/
def imageOf (kind : WorkloadKind) (item : Value) : String :=
  match kind.imageValue item with
  | .null => ""
  | v => v.display

/-- The images of a document in order. -/
def images (kind : WorkloadKind) (document : Value) : List String :=
  let found := (document.listAt kind.itemsPath).map kind.imageOf
  if kind.keepsEmpty then found else found.filter (· != "")

/-- Whether some image of a document is an integer with too many digits to be written. -/
def hasLongImage (kind : WorkloadKind) (document : Value) : Bool :=
  (document.listAt kind.itemsPath).any fun item => (kind.imageValue item).isTooLong

end WorkloadKind

end ImagePreload
