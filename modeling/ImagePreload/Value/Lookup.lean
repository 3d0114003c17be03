import ImagePreload.Value
import ImagePreload.Text.Ranges

/-!
# Dotted lookup

A dotted name leads through nested mappings by their text keys. It leads nowhere when a key is
missing and when a value on the way is no mapping.
-/

namespace ImagePreload

/-- The components of a dotted name. -/
def dotted (name : String) : List String :=
  (Text.splitAtChar '.' name.toList).map String.ofList

namespace Value

/-- The value at the end of a path of keys. -/
def at? (root : Value) : List String → Option Value
  | [] => some root
  | key :: keys => (root.field? key).bind fun v => v.at? keys

/-- The value a dotted name leads to. -/
def lookup? (root : Value) (name : String) : Option Value := root.at? (dotted name)

/-- The list a dotted name leads to, empty when there is none. -/
def listAt (root : Value) (name : String) : List Value :=
  match root.lookup? name with
  | some (.list items) => items
  | _ => []

end Value

end ImagePreload
