import ImagePreload.Format.Brace
import ImagePreload.Log.Event
import ImagePreload.Log.Timestamp
import ImagePreload.Text.Case

/-!
# Layouts of log events

A layout is a text with fields in braces, each of which names a field of the event and how it is
written. Fields of the event that belong into no layout follow behind it, and what is known about a
failure comes on lines of its own. Some fields are made when an event is laid out: the level in
capitals, its color, and the line for the time.

A palette gives every level a color, which stands in front of the whole, and ends it at the end.
-/

namespace ImagePreload.Log

/-- A text with fields in braces. The fields have plain names and are not converted. -/
abbrev Layout := String

/-- The layout for a console. -/
def consoleLayout : Layout := "\x7blog_color\x7d\x7blevel_uc:>8s\x7d: \x7bevent:s\x7d"

/-- The layout for a file. -/
def fileLayout : Layout :=
  "\x7btimestamp_local_ctime\x7d \x7bprocess:d\x7d/\x7bthread_name:s\x7d "
    ++ "\x7bfile:s\x7d:\x7bline:d\x7d \x7blevel_uc:s\x7d \x7bevent:s\x7d"

/-- The fields that never follow behind the layout. -/
def reservedFields : List String :=
  ["event", "level", "level_uc", "log_color", "log_color_reset", "timestamp",
    "timestamp_local_ctime", "file", "line", "function", "process", "thread_name", "logger",
    "stack", "exception", "_record", "_from_structlog"]

structure Palette where
  color : String → String
  reset : String

def noColors : Palette := ⟨fun _ => "", ""⟩

/-- The sequence that switches to a color or an effect. -/
def colorSequence (code : String) : String := "\x1b[" ++ code ++ "m"

def colors : Palette where
  color level :=
    if ["critical", "exception", "error"].contains level then colorSequence "31"
    else if ["warn", "warning"].contains level then colorSequence "33"
    else if level == "info" then colorSequence "32"
    else if level == "debug" then colorSequence "37"
    else if level == "notset" then colorSequence "41"
    else ""
  reset := colorSequence "0"

/-- Why an event cannot be laid out. -/
inductive LayoutFailure where
  | missing (field : String)
  | malformed (e : Format.BraceError)
  | format (e : Format.FormatError)
  /-- A value with an integer of too many digits. -/
  | longText
  | timestamp (e : TimestampError)
  /-- A level that is no text. -/
  | level (typeName : String)
  /-- A level that cannot even be looked up. -/
  | unhashable (typeName : String)
  /-- Something to be added on a line of its own that is no text. -/
  | line (typeName : String)

namespace LayoutFailure

def kind : LayoutFailure → ErrorKind
  | .missing _ => .key
  | .malformed _ | .longText => .value
  | .format e => if e.isType then .type else .value
  | .timestamp (.type _) => .type
  | .timestamp .tooLarge => .overflow
  | .timestamp _ => .value
  | .level _ => .attribute
  | .unhashable _ | .line _ => .type

def message : LayoutFailure → String
  | .missing field => field
  | .malformed e => e.message
  | .longText => tooManyDigitsMessage
  | .format e => e.message
  | .timestamp e => e.message
  | .level typeName => "'" ++ typeName ++ "' object has no attribute 'upper'"
  | .unhashable typeName => "unhashable type: '" ++ typeName ++ "'"
  | .line typeName => "can only concatenate str (not \"" ++ typeName ++ "\") to str"

end LayoutFailure

/-- The text of a value, unless it is too long for one. -/
def shown (v : Value) : Except LayoutFailure String :=
  if v.isTooLong then .error .longText else .ok v.display

/-- A value under a specification; under none it is shown as it is. -/
def specified (spec : List Char) (v : Value) : Except LayoutFailure String :=
  if spec.isEmpty then shown v
  else
    match v with
    | .text s =>
      (do Format.formatText (← Format.Spec.read .text v.typeName spec) s).mapError .format
    | v =>
      match v.number? with
      | some n => (Format.formatNumber v.typeName spec n).mapError .format
      | none => .error (.format (.unsupported v.typeName))

/-- The pieces of a layout one after the other, with the fields put in. -/
def fillFrom (fields : LogFields) : Nat → List Char → Except LayoutFailure String
  | 0, _ => .ok ""
  | fuel + 1, cs => do
    match ← (Format.takePiece cs).mapError .malformed with
    | none => return ""
    | some (.text c, rest) => return String.singleton c ++ (← fillFrom fields fuel rest)
    | some (.field f, rest) =>
      match fields.get? (.ofList f.name) with
      | none => throw (.missing (.ofList f.name))
      | some v =>
        let part ← specified f.spec v
        return part ++ (← fillFrom fields fuel rest)

/-- A layout with the fields put in. -/
def fill (layout : Layout) (fields : LogFields) : Except LayoutFailure String :=
  fillFrom fields (layout.toList.length + 1) layout.toList

/-- The fields that belong into no layout. -/
def extraFields (fields : LogFields) : LogFields :=
  fields.filter fun (name, _) => !reservedFields.contains name

/-- Fields behind the layout. -/
def extraText (fields : LogFields) : Except LayoutFailure String := do
  let parts ← (extraFields fields).mapM fun (name, v) => do
    return " " ++ name ++ "=" ++ (← shown v)
  return String.join parts

/-- A field on a line of its own, if it is there. -/
def lineText (name : String) (fields : LogFields) : Except LayoutFailure String :=
  match fields.get? name with
  | none | some .null => .ok ""
  | some (.text s) => .ok ("\n" ++ s)
  | some v => .error (.line v.typeName)

/-- The level of an event; one without any has the empty level. -/
def levelOf (fields : LogFields) : Except LayoutFailure String :=
  match fields.get? "level" with
  | none => .ok ""
  | some (.text s) => .ok s
  | some v => .error (if v.isKey then .level v.typeName else .unhashable v.typeName)

/-- An event with its time as a line. -/
def withTime (fields : LogFields) : Except LayoutFailure LogFields :=
  match fields.get? "timestamp" with
  | none => .ok fields
  | some v => do
    return fields.set "timestamp_local_ctime" (.text (← (Timestamp.line v).mapError .timestamp))

/-- An event with its level in capitals and in color. -/
def withLevel (palette : Palette) (level : String) (fields : LogFields) : LogFields :=
  ((fields.set "log_color_reset" (.text palette.reset)).set "log_color"
    (.text (palette.color level))).set "level_uc" (.text (Text.upper level))

/-- The text of an event. -/
def render (layout : Layout) (palette : Palette) (fields : LogFields) :
    Except LayoutFailure String := do
  let level ← levelOf fields
  let fields ← withTime (withLevel palette level fields)
  let text ← fill layout fields
  let extra ← extraText fields
  let stack ← lineText "stack" fields
  let exception ← lineText "exception" fields
  return text ++ extra ++ stack ++ exception ++ palette.reset

end ImagePreload.Log
