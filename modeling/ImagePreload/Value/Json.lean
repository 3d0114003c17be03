import ImagePreload.Text.Json
import ImagePreload.Value.Display

/-!
# Values as JSON

Sequences become arrays and mappings objects whose keys are texts. What JSON has no form for is
written as the quoted text of the value where the caller allows that.
-/

namespace ImagePreload

namespace Value

/-- The written form of a double; the special ones have names. -/
def jsonFloat (x : Float) : String :=
  match Decimal.shape x with
  | .notANumber => "NaN"
  | .infinite negative => if negative then "-Infinity" else "Infinity"
  | .finite _ => Decimal.floatText x

/-- The text of a key. -/
def jsonKey : Value → String
  | .null => "null"
  | .bool b => if b then "true" else "false"
  | .float x => jsonFloat x
  | v => v.display

mutual

/-- A value as JSON; values without a JSON form are quoted. -/
def toJson : Value → Json
  | .null => .null
  | .bool b => .bool b
  | .int n => .number (toString n)
  | .float x => .number (jsonFloat x)
  | .text s => .text s
  | .list items | .tuple items => .array (toJsonItems items)
  | .map entries => .object (toJsonFields entries)
  | v => .text v.quoted

def toJsonItems : List Value → List Json
  | [] => []
  | v :: vs => toJson v :: toJsonItems vs

def toJsonFields : List (Value × Value) → List (String × Json)
  | [] => []
  | (k, v) :: rest => (jsonKey k, toJson v) :: toJsonFields rest

end

end Value

end ImagePreload
