/-!
# Tokens of YAML texts
-/

namespace ToolScaffold.Yaml

/-- A token. The starts and ends of block collections stand for changes of the indentation. -/
inductive Token where
  | version (major minor : Nat)
  | tagDirective (handle expansion : String)
  | documentStart
  | documentEnd
  | blockSequenceStart
  | blockMappingStart
  | blockEnd
  | flowSequenceStart
  | flowSequenceEnd
  | flowMappingStart
  | flowMappingEnd
  | blockEntry
  | flowEntry
  | key
  | value
  | alias (name : String)
  | anchor (name : String)
  | tag (handle suffix : String)
  /-- A scalar; whether it stands without quotes and outside of a block. -/
  | scalar (isPlain : Bool) (text : String)
  deriving DecidableEq, Repr

end ToolScaffold.Yaml
