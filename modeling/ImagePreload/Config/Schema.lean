import ImagePreload.Config.Rule

/-!
# The rules of the configuration file
-/

namespace ImagePreload.Config

/-- The version of the form of configurations that is supported. -/
def supportedVersion : Nat := 1

/-- The key that states the version. -/
def versionKey : String := "configurationVersion"

/-- A text that must not be empty. -/
def nameRule : Rule := { sort := .text, allowsEmpty := false }

def optionalNameRule : Rule := { nameRule with nullable := true, default := some .null }

def durationRule (default : String) : Rule :=
  { sort := .text, conversion := some .toText, isDuration := true, default := some (.text default) }

/-- Labels and the like: texts under texts. -/
def labelsRule : Rule :=
  { sort := .mapping, conversion := some .toMapping, default := some (.map [])
    keys := some { sort := .text }
    values := some { sort := .text, conversion := some .toText } }

/-- A list that may be left out. -/
def listRule (items : Rule) : Rule :=
  { sort := .list, conversion := some .toList, default := some (.list []), items := some items }

/-- The fields of an object. -/
def objectFields : List (String × Rule) :=
  [("objectTemplate", { nameRule with required := true }),
    ("replicas", { sort := .integer, minimum := some 0, default := some (.int 1) }),
    ("inputVars",
      { sort := .mapping, conversion := some .toMapping, default := some (.map []) })]

def objectRule : Rule := { sort := .mapping, fields := some objectFields }

/-- The fields of a job. -/
def jobFields : List (String × Rule) :=
  [("name", { nameRule with required := true }),
    ("namespace", optionalNameRule),
    ("preLoadImages", { sort := .boolean, default := some (.bool false) }),
    ("preLoadPeriod", durationRule "1m"),
    ("preLoadNodeLabels", labelsRule),
    ("namespaceLabels", labelsRule),
    ("namespaceAnnotations", labelsRule),
    ("functionTemplates", listRule nameRule),
    ("objects", listRule objectRule)]

def jobRule : Rule := { sort := .mapping, fields := some jobFields }

/-- The fields of a whole configuration. -/
def configurationFields : List (String × Rule) :=
  [(versionKey,
      { nameRule with required := true, conversion := some .toText, isNumber := true }),
    ("logFile", optionalNameRule),
    ("kubeconfig", optionalNameRule),
    ("cleanupTimeout", durationRule "5m"),
    ("jobs", { sort := .list, required := true, allowsEmpty := false, items := some jobRule })]

/-- The rule of a whole configuration. -/
def schema : Rule := { sort := .mapping, required := true, fields := some configurationFields }

end ImagePreload.Config
