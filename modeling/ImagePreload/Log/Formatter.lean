import ImagePreload.Log.Layout
import ImagePreload.Value.Json

/-!
# Formatters

There are four ways to write an event: for a console with or without colors, for a file with the
time and the place in front, and as JSON.
-/

namespace ImagePreload.Log

inductive Formatter where
  | plain
  | colored
  | file
  | json
  deriving DecidableEq, Repr

namespace Formatter

def name : Formatter → String
  | .plain => "console-plain"
  | .colored => "console-colored"
  | .file => "legacy"
  | .json => "json"

def all : List Formatter := [.plain, .colored, .file, .json]

def ofName? (name : String) : Option Formatter := all.find? (·.name == name)

/-- The text of an event. -/
def render (formatter : Formatter) (fields : LogFields) : Except LayoutFailure String :=
  match formatter with
  | .plain => Log.render consoleLayout noColors fields
  | .colored => Log.render consoleLayout colors fields
  | .file => Log.render fileLayout noColors fields
  | .json =>
    .ok (Json.render none (Value.toJson (.map (fields.map fun (name, v) => (.text name, v)))))

end Formatter

end ImagePreload.Log
