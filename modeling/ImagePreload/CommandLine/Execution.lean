import ImagePreload.Cluster.Kubeconfig
import ImagePreload.CommandLine.Failure
import ImagePreload.CommandLine.Reading
import ImagePreload.Job.Selection
import ImagePreload.Preload
import ImagePreload.Text.Table

/-!
# Executing commands

A command is executed on a configuration. First the configuration is loaded, then what is logged is
also written to the file it names, if any. All jobs are read before anything else is done with any
of them, and there is a client for the cluster before anything is asked of it.

What a configuration says of durations are numbers. A command is executed by any clock that can tell
them and with any library that makes clients. Where neither matters, that is the clock of these
numbers itself, and a library that only knows kubeconfigs (`start`).
-/

namespace ImagePreload.CommandLine

/-- What a program finds around it. -/
structure Surroundings where
  files : Files
  environment : List (String × String)
  entropy : Entropy

namespace Surroundings

def home (s : Surroundings) : String := (s.environment.lookup "HOME").getD "/"

/-- How templates are rendered. -/
def renderer (s : Surroundings) : Renderer := Template.render ⟨.zero, s.environment, s.entropy⟩

/-- How clients are made outside of a cluster, where there is no service account. -/
def library (s : Surroundings) : ClientLibrary := Kubeconfig.library s.files s.environment none

end Surroundings

/-- The version of the program. -/
def programVersion : String := "0.1.0"

/-- The version of configurations in full. -/
def configVersion : String := toString Config.supportedVersion ++ ".0.0"

/-- The versions of configurations that are supported. -/
def supportedRange : String :=
  ">=" ++ toString Config.supportedVersion ++ ",<" ++ toString (Config.supportedVersion + 1)

/-- Where the configuration is looked for: the place that is asked for, or the usual ones. -/
def configPlaces (home : String) (options : Options) : List String :=
  match options.configFile with
  | some path => if path.isEmpty then Config.usualPlaces home else [path]
  | none => Config.usualPlaces home

def loadConfig (s : Surroundings) (options : Options) : Except ConfigFailure Config :=
  Config.ofPlaces s.files (configPlaces s.home options)

/-- How events are written on the console. -/
def consoleFormatter (options : Options) : Log.Formatter :=
  if options.machineOutput then .json else if options.noColor then .plain else .colored

/-- How events are asked to be shown, apart from a file. -/
def consoleSettings (options : Options) : Log.Settings :=
  { consoleLevel := .text options.logLevel
    consoleFormatter := .text (consoleFormatter options).name }

/-- An option of a configuration that is a text or null. -/
def textOption (config : Config) (name : String) (inquiry : Config.Inquiry) :
    Except CommandFailure (Option String) := do
  let found ← (config.root.get name inquiry).mapError .option
  match found.value with
  | .text s => return some s
  | _ => return none

/-- How events are shown while a command is executed. -/
def commandLogging (s : Surroundings) (options : Options) (config : Config) :
    Except CommandFailure Log.Setup := do
  let path ← textOption config "logFile"
    { default := some .null, wanted := some (.oneOf [.text, .null]) }
  ({ consoleSettings options with path }.setup s.files).mapError .logging

/-- The kubeconfig that is asked for on the command line, or in the configuration. -/
def kubeconfigOf (options : Options) (config : Config) : Except CommandFailure (Option String) :=
  match options.kubeconfig with
  | some path => .ok (some path)
  | none => textOption config "kubeconfig" { default := some .null }

/-- How long a sweep waits. -/
def cleanupTimeout (config : Config) : Except CommandFailure Float := do
  let found ← (config.root.get "cleanupTimeout"
    { default := some (.text "5m"), wanted := some (.one .text) }).mapError .option
  (parseDuration found.value.display).mapError .duration

variable {τ : Type}

/-- What loads images, once there is a client for the cluster. -/
def preLoader (seconds : Number → τ) (library : ClientLibrary) (s : Surroundings)
    (options : Options) (config : Config) : Program CommandFailure τ (PreLoader τ) := do
  let kubeconfig ← .ofExcept (kubeconfigOf options config)
  match kubeconfig with
  | some name => .log .debug (Kubeconfig.askedMessage name)
  | none => .succeed ()
  let _ ← .ofExcept ((library.client kubeconfig).mapError .client)
  let timeout ← .ofExcept (cleanupTimeout config)
  return ⟨s.renderer, stagingName, (markerSweep (.float timeout)).onClock seconds⟩

/-- The images of jobs, each with the name of its job. -/
def imagesOfJobs (s : Surroundings) :
    List (Job τ) → Program PreloadFailure τ (List (String × List String))
  | [] => .succeed []
  | job :: jobs =>
    (job.extractImages s.renderer).bind fun images =>
      (imagesOfJobs s jobs).bind fun rest => .succeed ((job.name.display, images) :: rest)

/-- The images of jobs as JSON. -/
def imagesJson (images : List (String × List String)) : Json :=
  .object [("jobs", .array (images.map fun (name, images) =>
    .object [("name", .text name), ("images", .array (images.map .text))]))]

/-- The images of jobs as a table. -/
def imagesTable (images : List (String × List String)) : String :=
  Text.table [⟨"job", .left⟩, ⟨"position", .center⟩, ⟨"image", .left⟩]
    (images.flatMap fun (name, images) =>
      images.zipIdx.map fun (image, position) => [name, toString position, image])

/-- A JSON document on the output. -/
def jsonOutput (indent : Nat) (document : Json) : String := document.render (some indent) ++ "\n"

def versionJson : Json :=
  .object
    [("version", .text programVersion),
      ("configuration_version",
        .object [("current", .text configVersion), ("supported", .text supportedRange)])]

/-- The paths of the files that a command may look at, apart from the configuration itself. -/
def pathsFor (s : Surroundings) (options : Options) (config : Config) : List String :=
  let named := (kubeconfigOf options config).toOption.getD none
  let kubeconfig := Kubeconfig.fileName s.environment named
  Files.expandHome s.home kubeconfig
    :: (config.options.listAt "jobs").flatMap (Job.pathsIn config.baseDirectory)

/-- Executes a command; the result is what it writes. -/
def execute [Clock τ] (seconds : Number → τ) (library : ClientLibrary) (s : Surroundings)
    (options : Options) (config : Config) : Command → Program CommandFailure τ String
  | .preload names => do
    let jobs ← (selectJobs s.files config names).mapFailure .job
    let loader ← preLoader seconds library s options config
    (loader.preloadJobs (jobs.map (Job.onClock seconds))).mapFailure .preload
    return ""
  | .images names => do
    let jobs ← (selectJobs s.files config names).mapFailure .job
    let images ← (imagesOfJobs s (jobs.map (Job.onClock seconds))).mapFailure .preload
    return if options.machineOutput then jsonOutput 2 (imagesJson images)
      else imagesTable images ++ "\n"
  | .cleanup => do
    let loader ← preLoader seconds library s options config
    let deleted ← loader.cleanup.mapFailure .preload
    if options.machineOutput then
      return jsonOutput 2 (.object [("namespaces", .array (deleted.map .text))])
    else
      if deleted.isEmpty then .log .info "No staging namespaces found."
      return ""
  | .versionInfo => do
    if options.machineOutput then return jsonOutput 4 versionJson
    else
      .log .info ("kube-preload version: " ++ programVersion ++ ".")
      .log .info
        ("Configuration version: " ++ configVersion ++ ", supported " ++ supportedRange ++ ".")
      return ""

/-- A command in the log. -/
def Command.text : Command → String
  | .cleanup => "commands.cleanup(**\x7b\x7d)"
  | .images names => "commands.images(**" ++ arguments names ++ ")"
  | .preload names => "commands.preload(**" ++ arguments names ++ ")"
  | .versionInfo => "commands.version_info(**\x7b\x7d)"
where
  arguments (names : List String) : String :=
    (Value.map [(.text "job_names", .list (names.map .text))]).quoted

/-- How a program ends. -/
structure Conclusion where
  code : Nat
  /-- What is written on the output. -/
  output : String := ""
  /-- What is said about the command line itself. -/
  complaint : String := ""
  /-- The last records in the log. -/
  records : List Record := []

/-- The end of a program that failed. -/
def Conclusion.ofFailure (e : CommandFailure) : Conclusion :=
  { code := (endingOf e.kind).code, records := e.records }

/-- A program that is ready to run, and how what it logs is shown. -/
structure Launch (τ : Type) where
  logging : Log.Setup
  program : Program Empty τ Conclusion

/-- How events are shown before a command is executed. -/
def initialLogging (options : Options) : Log.Setup :=
  ⟨⟨(Log.weight? (.text options.logLevel)).getD Level.info.weight, consoleFormatter options⟩, none⟩

/-- A command whose failures are told and give the exit code. -/
def conclude (program : Program CommandFailure τ String) : Program Empty τ Conclusion :=
  program.andThen fun
    | .ok output => .succeed { code := successCode, output }
    | .error e => .succeed (.ofFailure e)

/-- Starts a command: everything up to the point where it can log. -/
def launch [Clock τ] (seconds : Number → τ) (library : ClientLibrary) (s : Surroundings)
    (options : Options) (command : Command) : Launch τ :=
  let failed (e : CommandFailure) : Launch τ :=
    ⟨initialLogging options, .succeed (.ofFailure e)⟩
  match loadConfig s options with
  | .error e => failed (.config e)
  | .ok config =>
    match commandLogging s options config with
    | .error e => failed e
    | .ok logging =>
      ⟨logging,
        conclude (.note .debug command.text (execute seconds library s options config command))⟩

/-- A script that lets a shell complete commands. -/
def completionScript (shell : String) : String :=
  let words := " ".intercalate commandWords
  if shell == "bash" then
    "complete -W \"" ++ words ++ "\" " ++ mainForm.program ++ "\n"
  else "complete " ++ mainForm.program ++ " 'p/1/(" ++ words ++ ")/'\n"

/-- The whole program by a clock and with a library: what it does at once, or a command to be run.
-/
def startOn [Clock τ] (seconds : Number → τ) (library : ClientLibrary) (s : Surroundings)
    (arguments : List String) : Conclusion ⊕ Launch τ :=
  match read arguments with
  | .ok (.run options command) => .inr (launch seconds library s options command)
  | .ok (.completion shell) => .inl { code := successCode, output := completionScript shell }
  | .ok (.help form) => .inl { code := successCode, output := form.help }
  | .ok .nothing => .inl { code := usageCode, output := mainForm.usage }
  | .error (.help form) => .inl { code := successCode, output := form.help }
  | .error (.refused form refusal) =>
    .inl
      { code := refusalCode
        complaint := form.usage ++ form.program ++ ": error: " ++ refusal.message ++ "\n" }

/-- The whole program outside of a cluster. -/
def start (s : Surroundings) (arguments : List String) : Conclusion ⊕ Launch Number :=
  startOn id s.library s arguments

end ImagePreload.CommandLine
