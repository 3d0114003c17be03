import ImagePreload.Value.Pairs

/-!
# The manifest of the staging namespace

Every staging namespace carries one marker label, whatever labels are asked for: the sweep at the
end finds it by that.
-/

namespace ImagePreload

def stagingName : String := "preload-kube-burner"

def markerLabel : String := "kube-burner-preload"

def markerValue : String := "true"

/-- The label selector that finds the staging namespaces. -/
def markerSelector : String := markerLabel ++ "=" ++ markerValue

/-- A mapping with text keys, from a list of fields. -/
def record (fields : List (String × Value)) : Value :=
  .map (fields.map fun (k, v) => (.text k, v))

/-- The labels asked for, and the marker, which always wins. -/
def markedLabels (labels : Entries) : Entries :=
  labels.insert (.text markerLabel) (.text markerValue)

def stagingManifest (name : Value) (labels annotations : Entries) : Value :=
  record
    [("apiVersion", .text "v1"),
      ("kind", .text "Namespace"),
      ("metadata", record
        [("name", name),
          ("labels", .map (markedLabels labels)),
          ("annotations", .map annotations)])]

end ImagePreload
