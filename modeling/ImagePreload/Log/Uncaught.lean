import ImagePreload.Log.Formatter

/-!
# Failures that nobody handles

A failure that gets out of the program is logged by its full name. An interruption is none: it is
only told.
-/

namespace ImagePreload

/-- The full name of a kind of failure. -/
def ErrorKind.fullName (kind : ErrorKind) : String :=
  match kind with
  | .own _ => "kubepreload.exception." ++ kind.name
  | .clusterBase | .client | .httpStatus | .objectMissing => "pykube.exceptions." ++ kind.name
  | .transport _ => "requests.exceptions." ++ kind.name
  | kind => kind.name

/-- The message of a failure as it is told; that of a missing key is quoted. -/
def ErrorKind.toldMessage (kind : ErrorKind) (message : String) : String :=
  if kind == .key then Text.quoted message else message

/-- A failure in one line. -/
def failureLine (name message : String) : String :=
  if message.isEmpty then name else name ++ ": " ++ message

namespace Log

/-- The event of a failure that nobody handles. -/
def uncaughtFields (kind : ErrorKind) (message : String) : LogFields :=
  [("event", .text "Uncaught exception"), ("level", .text "error"),
    ("exception", .text (failureLine kind.fullName (kind.toldMessage message)))]

/-- What is told of a failure that nobody handles. -/
def uncaughtText (formatter : Formatter) (kind : ErrorKind) (message : String) :
    Except LayoutFailure String :=
  if kind == .interrupt then .ok (failureLine kind.fullName message)
  else formatter.render (uncaughtFields kind message)

end Log

end ImagePreload
