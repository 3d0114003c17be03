import ImagePreload.Config.Option
import ImagePreload.Duration
import ImagePreload.Files
import ImagePreload.Value.Pairs

/-!
# Why jobs cannot be had from a configuration
-/

namespace ImagePreload

inductive JobFailure where
  /-- Names that no job has. -/
  | unknown (names : List String)
  | option (e : Config.OptionFailure)
  /-- A template at a path that cannot be read. -/
  | template (path : String) (e : ReadError)
  /-- A path that is no text. -/
  | pathType (typeName : String)
  /-- Variables that make no mapping. -/
  | inputs (e : PairsError)
  | duration (option : String) (e : DurationError)

namespace JobFailure

/-- Failures of the system count as faults of the configuration; unreadable texts do not. -/
def kind : JobFailure → ErrorKind
  | .unknown _ => .own .usage
  | .option e => e.kind
  | .template _ (.file _ e) => if e.isSystem then .own .configuration else e.kind
  | .template _ e => e.kind
  | .pathType _ => .type
  | .inputs e => if e.isLength then .value else .type
  | .duration .. => .own .configuration

def message : JobFailure → String
  | .unknown names => "Unknown job(s): " ++ ", ".intercalate names ++ "."
  | .option e => e.message
  | .template name (.file source e) =>
    if e.isSystem then "Template " ++ name ++ " could not be read: " ++ e.message source ++ "."
    else e.message source
  | .template _ e => e.message
  | .pathType typeName => "expected str, bytes or os.PathLike object, not " ++ typeName
  | .inputs e => e.message
  | .duration name e => "Config option " ++ name ++ " is invalid: " ++ e.message

end JobFailure

end ImagePreload
