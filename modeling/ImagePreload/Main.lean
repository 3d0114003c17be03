import ImagePreload.CommandLine.Execution
import ImagePreload.Text.Escape
import Std.Time.DateTime.Timestamp

/-!
# The program

This layer reads files and the environment, tells what is logged, and lets time go by. Requests to
the cluster are the one thing it cannot make: each of them fails as a broken connection.
-/

namespace ImagePreload.Console

open CommandLine

/-- The file or directory at a path, if it can be read. -/
def node? (path : String) : IO (Option FileNode) := do
  try
    let data ← IO.FS.readBinFile path
    return some (.file data.toList)
  catch _ =>
    let isDirectory ← ((← IO.currentDir) / path).isDir
    return if isDirectory then some (.directory []) else none

/-- The files and directories at some paths. -/
def filesAt (workDirectory : String) (paths : List String) : IO Files := do
  let nodes ← paths.mapM fun path => do return (path, ← node? path)
  return Files.ofList workDirectory
    (nodes.filterMap fun (path, node) => node.map fun node => (path, node))

/-- The environment of the program. -/
def environment : IO (List (String × String)) := do
  let text ← try IO.FS.readFile "/proc/self/environ" catch _ => pure ""
  return ((Text.splitOn ['\x00'] none text.toList).filterMap fun entry =>
    (Text.breakAt? ['='] entry).map fun (name, value) => (.ofList name, .ofList value))

/-- Everything that a command may look at. -/
def surroundings (arguments : List String) : IO Surroundings := do
  let environment ← environment
  let entropy : Entropy := ⟨← IO.rand 0 (Nat.pow 2 62)⟩
  let workDirectory := (← IO.currentDir).toString
  let first : Surroundings := ⟨← filesAt workDirectory [], environment, entropy⟩
  match read arguments with
  | .ok (.run options _) =>
    let places := configPlaces first.home options
    let second := { first with files := ← filesAt workDirectory places }
    match loadConfig second options with
    | .error _ => return second
    | .ok config =>
      let logFile := (textOption config "logFile" {}).toOption.getD none
      let logPlaces := logFile.toList.flatMap fun path =>
        [Files.parent (second.files.absolutePath path), path]
      return { second with
        files := ← filesAt workDirectory (logPlaces ++ places ++ pathsFor second options config) }
  | _ => return first

/-- Writes a text; only a terminal gets its control sequences. -/
def write (stream : IO.FS.Stream) (text : String) : IO Unit := do
  stream.putStr (if ← stream.isTty then text else Text.withoutSequences text)

/-- Tells a record where it is to be shown. -/
def tell (logging : Log.Setup) (record : Record) : IO Unit := do
  let now ← Std.Time.Timestamp.now
  let call : LogCall :=
    { level := record.level, text := .text record.message, arguments := [], bound := [],
      given := [] }
  let context : LogContext :=
    { timestamp := .int now.toSecondsSinceUnixEpoch.val, file := mainForm.program, line := 0,
      function := "main", process := 0, thread := "MainThread" }
  match call.event context with
  | .error _ => return
  | .ok fields =>
    for line in logging.console.lines [(record.level, fields)] do
      write (← IO.getStderr) (line ++ "\n")
    match logging.file with
    | none => return
    | some (path, sink) =>
      for line in sink.lines [(record.level, fields)] do
        (← IO.FS.Handle.mk path .append).putStrLn line

/-- How every request to the cluster ends. -/
def unreachable : ClusterFailure := ⟨.transport "ConnectionError", none, "no connection"⟩

/-- The seconds of a duration in thousandths. -/
def milliseconds : Number → UInt32
  | .int n => (n * 1000).toNat.toUInt32
  | .float x => (x * 1000).toUInt32

/-- Runs a program to its end. -/
def perform {α : Type} (logging : Log.Setup) : Program Empty Number α → IO (Option α)
  | .done (.ok a) => return some a
  | .unfinished => return none
  | .note level message next => do
    tell logging { level, message }
    perform logging next
  | .ask _ next => perform logging (next (.error unreachable))
  | .sleep duration next => do
    IO.sleep (milliseconds duration)
    perform logging next
  | .clock next => do
    let now ← IO.monoMsNow
    perform logging (next (.float (now.toFloat / 1000)))

/-- Writes what a program has to say at its end, and gives its exit code. -/
def finish (c : Conclusion) : IO UInt32 := do
  write (← IO.getStdout) c.output
  (← IO.getStderr).putStr c.complaint
  return c.code.toUInt32

end ImagePreload.Console

open ImagePreload in
def main (arguments : List String) : IO UInt32 := do
  match CommandLine.start (← Console.surroundings arguments) arguments with
  | .inl conclusion => Console.finish conclusion
  | .inr launch =>
    match ← Console.perform launch.logging launch.program with
    | none => return 1
    | some conclusion =>
      for record in conclusion.records do
        Console.tell launch.logging record
      Console.finish conclusion
