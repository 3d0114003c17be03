import ImagePreload.Format.Percent
import ImagePreload.Log.Level
import ImagePreload.Value.Display

/-!
# Log events

An event is a row of named values, its text among them. It is made from a text with arguments and
the values that go along, and is told apart from others by its level.
-/

namespace ImagePreload

/-- Named values in order. -/
abbrev LogFields := List (String × Value)

namespace LogFields

def get? (name : String) (fields : LogFields) : Option Value := fields.lookup name

/-- Replaces a value where it stands, or adds it at the end. -/
def set (name : String) (value : Value) : LogFields → LogFields
  | [] => [(name, value)]
  | (n, v) :: rest => if n == name then (n, value) :: rest else (n, v) :: set name value rest

/-- Sets values one after the other. -/
def update (fields : LogFields) (more : LogFields) : LogFields :=
  more.foldl (fun fields (n, v) => set n v fields) fields

def erase (name : String) (fields : LogFields) : LogFields := fields.filter (·.1 != name)

end LogFields

/-- Where and when something is logged. -/
structure LogContext where
  /-- Seconds since the start of the epoch. -/
  timestamp : Value
  file : String
  line : Int
  function : String
  process : Int
  thread : String

/-- Something that is logged. -/
structure LogCall where
  level : Level
  text : Value
  arguments : List Value
  /-- Values that go along with everything the caller logs. -/
  bound : LogFields
  given : LogFields

namespace LogCall

/-- A value as an argument of a text with percent marks. -/
def argument (v : Value) : Format.Argument Format.PercentError :=
  { text := fun _ => .ok v.display
    quoted := fun _ => .ok v.quoted
    number := v.number?
    single :=
      match v with
      | .text s => match s.toList with | [c] => some c | _ => none
      | _ => none
    typeName := v.typeName }

/-- Arguments of a text; a mapping that comes alone and is not empty names them. -/
def argumentsOf : List Value → Format.Arguments Format.PercentError
  | [.map (e :: entries)] =>
    ⟨[argument (.map (e :: entries))],
      some fun name =>
        match Entries.get? (.text name) (e :: entries) with
        | some v => .ok (argument v)
        | none => .error (.unknownKey name)⟩
  | vs => ⟨vs.map argument, none⟩

/-- The text with its arguments put in; without any it stays as it is. -/
def message (text : Value) (arguments : List Value) : Except Format.PercentError Value :=
  match text, arguments with
  | v, [] => .ok v
  | .text s, vs => (Format.percent id s (argumentsOf vs)).map .text
  | v, _ => .ok v

/-- The fields that tell where and when. -/
def contextFields (context : LogContext) : LogFields :=
  [("timestamp", context.timestamp), ("file", .text context.file), ("line", .int context.line),
    ("function", .text context.function), ("process", .int context.process),
    ("thread_name", .text context.thread)]

/-- The event of a call. -/
def event (context : LogContext) (call : LogCall) : Except Format.PercentError LogFields := do
  let text ← message call.text call.arguments
  let fields := LogFields.update (call.bound.update call.given)
    [("event", call.text), ("level", .text call.level.name.toLower)]
  let fields := (fields.set "event" text).update (contextFields context)
  return (fields.erase "stack_info").erase "exc_info"

end LogCall

end ImagePreload
