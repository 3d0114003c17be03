import ImagePreload.Config.Error
import ImagePreload.Files
import ImagePreload.Text.Digit
import ImagePreload.Yaml.Document

/-!
# Configurations

A configuration is a mapping that states its version and follows the rules. It comes from a text or
from the first of several places that holds a file; what the other places hold does not matter.
Paths in it are relative to the directory of that file.
-/

namespace ImagePreload

/-- A mapping that follows the rules, with everything optional filled in. -/
structure Config where
  options : Value
  baseDirectory : String

namespace Config

/-- The version that a text of decimal digits states. -/
def readVersion (text : String) : Except ConfigFailure Nat :=
  match text.toList.mapM Text.digitValue? with
  | some (d :: ds) =>
    if ds.length + 1 > Value.digitLimit then .error (.versionTooLong (ds.length + 1))
    else .ok (Decimal.digitsValue 10 (d :: ds))
  | _ => .error (.versionInvalid text)

/-- Accepts mappings of the supported version. -/
def checkVersion : Value → Except ConfigFailure Entries
  | .map entries =>
    match Entries.get? (.text versionKey) entries with
    | none => .error .versionMissing
    | some version => do
      if version.isTooLong then throw .longInteger
      let text := version.display
      if (← readVersion text) == supportedVersion then return entries
      else throw (.versionUnsupported text)
  | _ => .error .notMapping

/-- The key under which a whole configuration is looked at. -/
def rootKey : Value := .text "configuration"

/-- A mapping that follows the rules, completed by them. -/
def complete (entries : Entries) : Except ConfigFailure Value :=
  if schema.isConfusedBy (.map entries) then .error .confused
  else
    match schema.validate rootKey (.map entries) with
    | (options, []) => .ok options
    | (_, found) =>
      if found.all Finding.isWritable then .error (.invalid (errorTree found))
      else .error (.longKey (errorTree (found.takeWhile Finding.isWritable)))

/-- The configuration that a document gives. -/
def ofDocument (baseDirectory : String) (document : Value) : Except ConfigFailure Config := do
  let options ← complete (← checkVersion document)
  if options.isTooLong then throw .longInteger
  return ⟨options, baseDirectory⟩

/-- A document that is not null. -/
def someDocument (origin : ConfigOrigin) : Value → Except ConfigFailure Value
  | .null => .error (.empty origin)
  | document => .ok document

/-- The configuration that is written in a text. -/
def ofText (files : Files) (text : String) : Except ConfigFailure Config := do
  let document ← (Yaml.load text).mapError fun _ => .unreadable .text
  ofDocument files.workDirectory (← someDocument .text document)

/-- The document in a file. -/
def readDocument (files : Files) (path : String) : Except ConfigFailure Value := do
  let text ← (files.readText path).mapError fun _ => .unreadable (.file path)
  let document ← (Yaml.load text).mapError fun _ => .unreadable (.file path)
  someDocument (.file path) document

/-- The configuration in the first of some places that holds a file. -/
def ofPlaces (files : Files) (places : List String) : Except ConfigFailure Config :=
  match places.find? files.isFile with
  | none => .error (.notFound places)
  | some path => do
    let document ← readDocument files path
    if document.truthy then ofDocument (Files.parent (files.absolutePath path)) document
    else throw (.notFound places)

/-- Where a configuration is looked for unless something else is asked for. -/
def usualPlaces (home : String) : List String :=
  ["/etc/kube-preload.yaml", "/etc/kube-preload/kube-preload.yaml",
    Files.expandHome home "~/.kube-preload.yaml", Files.expandHome home "~/kube-preload.yaml"]

end Config

end ImagePreload
