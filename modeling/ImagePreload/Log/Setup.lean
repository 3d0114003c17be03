import ImagePreload.Files
import ImagePreload.Log.Formatter

/-!
# Where events are shown

Events are shown on the console from some level on, and perhaps written to a file, where no event of
information or above is left out. Some sources are too talkative and only heard when they warn.
-/

namespace ImagePreload.Log

/-- From which level on events are shown, and how they are written. -/
structure Sink where
  threshold : Int
  formatter : Formatter

structure Setup where
  console : Sink
  /-- The path of a file. -/
  file : Option (String × Sink)

/-- How events are asked to be shown. -/
structure Settings where
  /-- A name of a level, or a weight. -/
  consoleLevel : Value := .text "INFO"
  consoleFormatter : Value := .text Formatter.plain.name
  fileFormatter : Value := .text Formatter.file.name
  path : Option String := none

inductive SetupFailure where
  | formatter (name : String)
  | consoleLevel
  /-- A level with no weight to compare with that of information. -/
  | fileLevel
  | file

namespace SetupFailure

def kind : SetupFailure → ErrorKind
  | .formatter _ => .own .usage
  | .fileLevel => .type
  | .consoleLevel | .file => .value

def message : SetupFailure → String
  | .formatter name => "Event formatter " ++ name ++ " is unknown."
  | .consoleLevel => "Unable to configure handler 'console'"
  | .file => "Unable to configure handler 'file'"
  | .fileLevel => "'<' not supported between instances of 'int' and 'str'"

end SetupFailure

/-- The weights of the names of levels. -/
def namedWeights : List (String × Int) :=
  [("CRITICAL", 50), ("FATAL", 50), ("ERROR", 40), ("WARN", 30), ("WARNING", 30), ("INFO", 20),
    ("DEBUG", 10), ("NOTSET", 0)]

/-- The weight that a setting stands for. -/
def weight? : Value → Option Int
  | .int n => some n
  | .bool b => some (if b then 1 else 0)
  | .text name => namedWeights.lookup name
  | _ => none

def formatterOf (v : Value) : Except SetupFailure Formatter :=
  match v with
  | .text name =>
    match Formatter.ofName? name with
    | some formatter => .ok formatter
    | none => .error (.formatter name)
  | v => .error (.formatter v.display)

namespace Settings

/-- What the settings amount to. -/
def setup (files : Files) (settings : Settings) : Except SetupFailure Setup := do
  let consoleFormatter ← formatterOf settings.consoleFormatter
  let fileFormatter ← formatterOf settings.fileFormatter
  let fileSink ←
    match settings.path with
    | none => pure none
    | some path =>
      match weight? settings.consoleLevel with
      | none => throw .fileLevel
      | some weight => pure (some (path, (⟨min weight Level.info.weight, fileFormatter⟩ : Sink)))
  let threshold ←
    match settings.consoleLevel, weight? settings.consoleLevel with
    | _, some weight => pure weight
    | .null, none => pure 0
    | _, none => throw .consoleLevel
  match fileSink with
  | some (path, _) => if !files.isWritable path then throw .file
  | none => pure ()
  return ⟨⟨threshold, consoleFormatter⟩, fileSink⟩

end Settings

/-- Sources that are only heard when they warn. -/
def talkativeSources : List String := ["urllib3", "requests"]

/-- Whether a source is heard at a level. -/
def isHeard (source : Option String) (level : Level) : Bool :=
  match source with
  | none => true
  | some name =>
    !(talkativeSources.any fun quiet => name == quiet || name.startsWith (quiet ++ "."))
      || level.weight ≥ Level.warning.weight

namespace Sink

def accepts (sink : Sink) (level : Level) : Bool := level.weight ≥ sink.threshold

/-- What is written of events, one after the other. -/
def lines (sink : Sink) (events : List (Level × LogFields)) : List String :=
  (events.filter fun (level, _) => sink.accepts level).filterMap fun (_, fields) =>
    (sink.formatter.render fields).toOption

end Sink

end ImagePreload.Log
