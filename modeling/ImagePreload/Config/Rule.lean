import ImagePreload.Value.Display

/-!
# Rules for configurations

A rule says what a value has to be and what is made of it before it is looked at: a default put in
its place, or a conversion. Rules of mappings and lists hold rules for what is inside them.
-/

namespace ImagePreload.Config

/-- The sorts of values that rules tell apart. -/
inductive ValueSort where
  | text
  | boolean
  | integer
  | list
  | mapping
  deriving DecidableEq, Repr

namespace ValueSort

def name : ValueSort → String
  | .text => "string"
  | .boolean => "boolean"
  | .integer => "integer"
  | .list => "list"
  | .mapping => "dict"

/-- Whether a value is of a sort. Truth values count as integers, bytes as lists. -/
def holds : ValueSort → Value → Bool
  | .text, .text _ => true
  | .boolean, .bool _ => true
  | .integer, .int _ | .integer, .bool _ => true
  | .list, .list _ | .list, .tuple _ | .list, .bytes _ => true
  | .mapping, .map _ => true
  | _, _ => false

end ValueSort

/-- What is made of a value before it is looked at. -/
inductive Conversion where
  | toText
  /-- Null becomes an empty mapping. -/
  | toMapping
  /-- Null becomes an empty list. -/
  | toList
  deriving DecidableEq, Repr

/-- The converted value, or why there is none. -/
def Conversion.apply : Conversion → Value → Except String Value
  | .toText, v => if v.isTooLong then .error tooManyDigitsMessage else .ok (.text v.display)
  | .toMapping, .null => .ok (.map [])
  | .toList, .null => .ok (.list [])
  | _, v => .ok v

structure Rule where
  sort : ValueSort
  required : Bool := false
  nullable : Bool := false
  allowsEmpty : Bool := true
  /-- Whether the text has to be a number. -/
  isNumber : Bool := false
  /-- Whether the text has to be a duration. -/
  isDuration : Bool := false
  /-- What is put in the place of nothing, and of null where that is not allowed. -/
  default : Option Value := none
  conversion : Option Conversion := none
  minimum : Option Int := none
  /-- The rule of the keys of a mapping. -/
  keys : Option Rule := none
  /-- The rule of the values of a mapping. -/
  values : Option Rule := none
  /-- The rule of the items of a list. -/
  items : Option Rule := none
  /-- The rules of the fields of a mapping, which has no others. -/
  fields : Option (List (String × Rule)) := none

end ImagePreload.Config
