import DemoBuild.Yaml.Tag

/-!
# Tokens of a document

The marks, names and scalars that a document text consists of. Indentation has become tokens that
start and end block collections.
-/

namespace DemoBuild.Yaml

/-- A token of a document. -/
inductive Token where
  /-- The version that a document states. -/
  | version (major minor : Nat)
  /-- A handle for tags and what it stands for. -/
  | handle (name : String) (lead : Tag)
  /-- Three dashes. -/
  | documentStart
  /-- Three dots. -/
  | documentEnd
  /-- The end of the text. -/
  | textEnd
  /-- A list in block form starts. -/
  | blockSequenceStart
  /-- A mapping in block form starts. -/
  | blockMappingStart
  /-- A block collection ends. -/
  | blockEnd
  /-- An opening bracket. -/
  | flowSequenceStart
  /-- A closing bracket. -/
  | flowSequenceEnd
  /-- An opening brace. -/
  | flowMappingStart
  /-- A closing brace. -/
  | flowMappingEnd
  /-- A dash in front of an item. -/
  | blockEntry
  /-- A comma. -/
  | flowEntry
  /-- A key follows. -/
  | key
  /-- A value follows. -/
  | value
  /-- A reference to an anchor. -/
  | alias (name : String)
  /-- An anchor of the node that follows. -/
  | anchor (name : String)
  /-- A tag of the node that follows: a handle, if it has one, and the rest of it. -/
  | tag (handle : Option String) (suffix : Tag)
  /-- A scalar, and whether it stands without quotes. -/
  | scalar (text : String) (plain : Bool)
  deriving DecidableEq, Repr

end DemoBuild.Yaml
