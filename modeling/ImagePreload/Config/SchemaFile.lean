import ImagePreload.Files
import ImagePreload.Yaml.Document

/-!
# Files with rules

Rules may also be written down as a document in a file.
-/

namespace ImagePreload.Config

/-- Why rules cannot be had from a file. -/
inductive SchemaFailure where
  | missing (path : String)
  | file (e : ReadError)
  | document (e : Yaml.LoadError)

namespace SchemaFailure

def kind : SchemaFailure → ErrorKind
  | .missing _ => .own .internal
  | .file e => e.kind
  | .document e => e.kind

def message : SchemaFailure → String
  | .missing path => "Schema " ++ path ++ " not found or not accessible."
  | .file e => e.message
  | .document e => e.message

end SchemaFailure

/-- The document in a file with rules. -/
def readSchema (files : Files) (path : String) : Except SchemaFailure Value :=
  match files.readText path with
  | .error (.file _ .missing) => .error (.missing path)
  | .error e => .error (.file e)
  | .ok text => (Yaml.load text).mapError .document

end ImagePreload.Config
