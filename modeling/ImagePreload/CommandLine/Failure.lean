import ImagePreload.Cluster.Client
import ImagePreload.Config
import ImagePreload.Job.Failure
import ImagePreload.Log.Setup
import ImagePreload.Log.Uncaught
import ImagePreload.Preload.Failure

/-!
# How commands fail

A command fails in one of its steps. The kind of the failure decides the exit code and whether it is
told with a trace of where it came from; otherwise that trace is only told to those who look for it.
-/

namespace ImagePreload.CommandLine

inductive CommandFailure where
  | config (e : ConfigFailure)
  | logging (e : Log.SetupFailure)
  | option (e : Config.OptionFailure)
  | job (e : JobFailure)
  | client (e : ClientFailure)
  | duration (e : DurationError)
  | preload (e : PreloadFailure)

namespace CommandFailure

def kind : CommandFailure → ErrorKind
  | .config e => e.kind
  | .logging e => e.kind
  | .option e => e.kind
  | .job e => e.kind
  | .client e => e.kind
  | .duration _ => .value
  | .preload e => e.kind

def message : CommandFailure → String
  | .config e => e.message
  | .logging e => e.message
  | .option e => e.message
  | .job e => e.message
  | .client e => e.message
  | .duration e => e.message
  | .preload e => e.message

end CommandFailure

/-- How a program ends because of a failure. -/
structure Ending where
  code : Nat
  /-- Whether the failure is told with its trace. -/
  traced : Bool
  deriving DecidableEq, Repr

/-- The code of success. -/
def successCode : Nat := 0

/-- The code of a command line without a command. -/
def usageCode : Nat := 64

/-- The code of a command line that is refused. -/
def refusalCode : Nat := 2

def endingOfOwn : OwnKind → Ending
  | .usage => ⟨usageCode, false⟩
  | .configuration => ⟨78, false⟩
  | .fatal | .namespaceCreate => ⟨69, true⟩
  | .render => ⟨65, false⟩
  | .workloadCreate | .cleanup => ⟨75, false⟩
  | .internal | .general => ⟨70, true⟩

/-- How a failure of a kind ends the program. -/
def endingOf : ErrorKind → Ending
  | .own kind => endingOfOwn kind
  | .permission => ⟨77, false⟩
  | .fileNotFound => ⟨66, false⟩
  | .connection _ => ⟨74, true⟩
  | .interrupt => ⟨66, false⟩
  | _ => ⟨70, true⟩

/-- A record of a log; a traced one comes with the way to its failure. -/
structure Record where
  level : Level
  message : String
  traced : Bool := false
  deriving DecidableEq, Repr

/-- A failure in the log. -/
def failureText (kind : ErrorKind) (message : String) : String :=
  let told := kind.toldMessage message
  if told.isEmpty then kind.name ++ " exception occurred." else kind.name ++ ": " ++ told

/-- The last records of a program that failed. -/
def failureRecords (kind : ErrorKind) (message : String) : List Record :=
  let text := failureText kind message
  if (endingOf kind).traced then [⟨.error, text, true⟩]
  else [⟨.debug, text, true⟩, ⟨.error, text, false⟩]

/-- What is logged of a failure, from what it reports itself to how it ends the program. -/
def CommandFailure.records (e : CommandFailure) : List Record :=
  let report :=
    match e with
    | .config e => e.report.map fun line => (⟨.error, line, false⟩ : Record)
    | _ => []
  report ++ failureRecords e.kind e.message

end ImagePreload.CommandLine
