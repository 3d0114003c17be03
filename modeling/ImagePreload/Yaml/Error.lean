import ImagePreload.ErrorKind
import ImagePreload.Value.Display

/-!
# Why a document cannot be read

Most texts that cannot be read are malformed, and where they are does not matter to anyone. The
other causes are scalars whose text announces a type that it does not belong to.
-/

namespace ImagePreload.Yaml

/-- What is wrong with the form of a document. -/
inductive Flaw where
  | character
  | endOfText
  | quoted
  | escape
  | header
  | indentation
  | simpleKey
  | entry
  | directive
  | tag
  | anchor
  | separator
  | content
  | alias
  | secondDocument
  | duplicateKey
  | badKey
  | merge
  | unknownTag
  | binary
  deriving DecidableEq, Repr

inductive LoadError where
  | malformed (flaw : Flaw)
  /-- A text that is no integer in the base its form asks for. -/
  | integer (base : Nat) (text : String)
  | longInteger (digits : Nat)
  | float (text : String)
  /-- A number without any character. -/
  | emptyNumber
  | date (reason : String)
  | truth (text : String)
  /-- A minor version whose scalars have no rules. -/
  | version (minor : Nat)
  | unhashable (typeName : String)
  | codePoint

def LoadError.kind : LoadError → ErrorKind
  | .malformed _ => .document
  | .integer .. | .longInteger _ | .float _ | .date _ | .codePoint => .value
  | .emptyNumber => .index
  | .truth _ | .version _ => .key
  | .unhashable _ => .type

def LoadError.message : LoadError → String
  | .malformed _ => "malformed document"
  | .integer base text =>
    "invalid literal for int() with base " ++ toString base ++ ": " ++ Text.quoted text
  | .longInteger digits => tooManyDigitsToRead digits
  | .float text => "could not convert string to float: " ++ Text.quoted text
  | .emptyNumber => "string index out of range"
  | .date reason => reason
  | .truth text => text
  | .version minor => "(1, " ++ toString minor ++ ")"
  | .unhashable typeName => "unhashable type: '" ++ typeName ++ "'"
  | .codePoint => "chr() arg not in range(0x110000)"

abbrev Load := Except LoadError

def flawed {α : Type} (flaw : Flaw) : Load α := .error (.malformed flaw)

end ImagePreload.Yaml
