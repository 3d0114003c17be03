import ImagePreload.ErrorKind
import ImagePreload.Value.Display
import ImagePreload.Value.Lookup

/-!
# Options

An option is asked for by a dotted name. What it is found in may have a full name of its own, which
then is put in front of the option's name in messages, and which a mapping or a list that is found
takes along.
-/

namespace ImagePreload.Config

/-- The types of the values that configurations consist of. -/
inductive OptionType where
  | text
  | int
  | float
  | bool
  | list
  | map
  | null
  deriving DecidableEq, Repr

namespace OptionType

def name : OptionType → String
  | .text => "str"
  | .int => "int"
  | .float => "float"
  | .bool => "bool"
  | .list => "list"
  | .map => "dict"
  | .null => "NoneType"

/-- Whether a value is of a type. A truth value is an integer, too. -/
def holds : OptionType → Value → Bool
  | .text, .text _ | .int, .int _ | .int, .bool _ | .float, .float _ | .bool, .bool _
  | .list, .list _ | .map, .map _ | .null, .null => true
  | _, _ => false

end OptionType

/-- A type in messages. -/
def typeText (name : String) : String := "<class '" ++ name ++ "'>"

/-- What type is wanted: any that values can be tested for, with the text of it in messages. -/
structure Wanted where
  holds : Value → Bool
  text : String

namespace Wanted

/-- One type and no other. -/
def one (type : OptionType) : Wanted := ⟨type.holds, typeText type.name⟩

/-- Several types of which one will do. -/
def oneOf (types : List OptionType) : Wanted where
  holds v := types.any (·.holds v)
  text :=
    match types with
    | [type] => "(" ++ typeText type.name ++ ",)"
    | types => "(" ++ ", ".intercalate (types.map fun t => typeText t.name) ++ ")"

end Wanted

/-- Why an option cannot be had. -/
inductive OptionFailure where
  | missing (fullName : String)
  | wrongType (fullName : String) (actual : String) (wanted : Wanted)
  /-- A value on the way that is no mapping. -/
  | notMapping (v : Value)

namespace OptionFailure

def kind : OptionFailure → ErrorKind
  | .missing _ => .key
  | .wrongType .. | .notMapping _ => .type

def message : OptionFailure → String
  | .missing fullName => "Config option " ++ fullName ++ " is missing."
  | .wrongType fullName actual wanted =>
    "Config value " ++ fullName ++ " has wrong type " ++ typeText actual ++ ", expected "
      ++ wanted.text ++ "."
  | .notMapping (.text _) => "string indices must be integers, not 'str'"
  | .notMapping (.list _) => "list indices must be integers or slices, not str"
  | .notMapping (.tuple _) => "tuple indices must be integers or slices, not str"
  | .notMapping (.bytes _) => "byte indices must be integers or slices, not str"
  | .notMapping v => "'" ++ v.typeName ++ "' object is not subscriptable"

end OptionFailure

/-- A value with the full name of where it was found, if it has one. -/
structure Section where
  value : Value
  fullName : Option String := none

/-- How an option is asked for. -/
structure Inquiry where
  /-- What an option that is missing counts as. -/
  default : Option Value := none
  wanted : Option Wanted := none
  /-- The full name to go by instead of the section's own. -/
  within : Option String := none
  /-- A position in front of the name. -/
  position : Option Int := none

/-- A name behind the name of what it is in. -/
def under (outer name : String) : String := if outer.isEmpty then name else outer ++ "." ++ name

namespace Section

/-- The full name of an option. -/
def nameOf (s : Section) (name : String) (inquiry : Inquiry) : String :=
  let outer := inquiry.within.getD (s.fullName.getD "")
  under (inquiry.position.elim outer fun i => under outer (toString i)) name

/-- Follows keys from a value. -/
def follow (fullName : String) (v : Value) : List String → Except OptionFailure Value
  | [] => .ok v
  | key :: keys =>
    match v with
    | .map entries =>
      match Entries.get? (.text key) entries with
      | some inner => follow fullName inner keys
      | none => .error (.missing fullName)
    | v => .error (.notMapping v)

/-- A value that was found; only mappings and lists keep the name. -/
def ofFound (fullName : String) : Value → Section
  | .map entries => ⟨.map entries, some fullName⟩
  | .list items => ⟨.list items, some fullName⟩
  | v => ⟨v, none⟩

/-- The option of a dotted name. -/
def get (s : Section) (name : String) (inquiry : Inquiry) : Except OptionFailure Section :=
  let fullName := s.nameOf name inquiry
  match follow fullName s.value (dotted name), inquiry.default with
  | .error (.missing _), some d => .ok ⟨d, none⟩
  | .error e, _ => .error e
  | .ok v, _ =>
    match inquiry.wanted with
    | none => .ok (ofFound fullName v)
    | some wanted =>
      if wanted.holds v then .ok (ofFound fullName v)
      else .error (.wrongType fullName v.typeName wanted)

end Section

end ImagePreload.Config
