/-!
# Tokens of a document

The tokens are the indicators and scalars of the text, together with the starts and ends of the
blocks that only the indentation shows.
-/

namespace ImagePreload.Yaml

inductive Token where
  | version (major minor : Nat)
  | tagHandle (handle start : String)
  | otherDirective
  | documentStart
  | documentEnd
  | blockSequenceStart
  | blockMappingStart
  | blockEnd
  | sequenceStart
  | sequenceEnd
  | mappingStart
  | mappingEnd
  | blockEntry
  | flowEntry
  | key
  | value
  | alias (name : String)
  | anchor (name : String)
  /-- A tag, split behind its handle if it has one. -/
  | tag (handle : Option String) (suffix : String)
  | scalar (text : String) (plain : Bool)
  deriving DecidableEq, Repr

end ImagePreload.Yaml
