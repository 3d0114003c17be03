import ImagePreload.Config.Schema
import ImagePreload.Config.Validation
import ImagePreload.ErrorKind

/-!
# Why there is no configuration
-/

namespace ImagePreload

/-- Where a configuration comes from. -/
inductive ConfigOrigin where
  | file (path : String)
  | text
  deriving DecidableEq, Repr

/-- What a configuration is called in messages. -/
def ConfigOrigin.subject : ConfigOrigin → String
  | .file path => "Configuration file " ++ path
  | .text => "Configuration string"

inductive ConfigFailure where
  | unreadable (origin : ConfigOrigin)
  | empty (origin : ConfigOrigin)
  | notFound (places : List String)
  | notMapping
  | versionMissing
  /-- A version that is no number. -/
  | versionInvalid (version : String)
  | versionUnsupported (version : String)
  /-- A number with too many digits to be read. -/
  | versionTooLong (digits : Nat)
  /-- Something that breaks the rules, as a tree of messages. -/
  | invalid (errors : Value)
  /-- Something that breaks the rules under a key with too many digits to be written, and the
  messages in front of it. -/
  | longKey (errors : Value)
  /-- A mapping in the place of a list that looks like a rule. -/
  | confused
  /-- An integer with too many digits to be written. -/
  | longInteger

namespace ConfigFailure

def kind : ConfigFailure → ErrorKind
  | .versionTooLong _ | .longKey _ | .longInteger => .value
  | .confused => .type
  | _ => .own .configuration

def message : ConfigFailure → String
  | .unreadable origin => origin.subject ++ " is invalid."
  | .empty origin => origin.subject ++ " is empty."
  | .notFound places =>
    "No configuration file found in the default places (" ++ ", ".intercalate places ++ ")."
  | .notMapping => "Configuration must be a mapping."
  | .versionMissing =>
    "Configuration is missing required key \"" ++ Config.versionKey ++ "\"."
  | .versionInvalid version => "Configuration has invalid version of \"" ++ version ++ "\"."
  | .versionUnsupported version =>
    "Configuration has unsupported version of \"" ++ version ++ "\"."
  | .versionTooLong digits => tooManyDigitsToRead digits
  | .invalid _ => "Configuration is invalid."
  | .confused => "argument of type 'NoneType' is not iterable"
  | .longKey _ | .longInteger => tooManyDigitsMessage

/-- What is said about a failure before it is passed on. -/
def report : ConfigFailure → List String
  | .invalid errors | .longKey errors =>
    "Configuration validation errors:" :: Config.errorLines "" errors
  | _ => []

end ConfigFailure

end ImagePreload
