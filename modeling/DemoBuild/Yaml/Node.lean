import DemoBuild.Yaml.Tag

/-!
# Nodes of a document

The nodes that the tokens of a document spell out: scalars, lists, mappings and aliases. Anchors are
names of type `ν`; a document text gives them as strings. Where the text is malformed the nodes in
front of the fault stand all the same, and a broken node is in its place: whoever reads the document
meets its faults in the order in which they are written.
-/

namespace DemoBuild.Yaml

/-- What may stand in front of a node. -/
structure Properties (ν : Type) where
  /-- The anchor that aliases refer to. -/
  anchor : Option ν := none
  /-- The tag. -/
  tag : Option Tag := none

/-- A node of a document. -/
inductive Node (ν : Type) where
  /-- A reference to the node with an anchor. -/
  | alias (anchor : ν)
  /-- A scalar, and whether it stands without quotes. -/
  | scalar (properties : Properties ν) (text : String) (plain : Bool)
  /-- A list. -/
  | sequence (properties : Properties ν) (items : List (Node ν))
  /-- A mapping. -/
  | mapping (properties : Properties ν) (entries : List (Node ν × Node ν))
  /-- The text is malformed here, and nothing of it stands after this. -/
  | broken

/-- How far the reading of nodes comes. -/
structure Extent where
  /-- The number of steps. -/
  steps : Nat
  /-- No broken node is met. -/
  whole : Bool

namespace Extent

/-- Nothing is read. -/
def zero : Extent :=
  ⟨0, true⟩

/-- One thing is read after another. -/
def append (first second : Extent) : Extent :=
  if first.whole then ⟨first.steps + second.steps, second.whole⟩ else first

/-- One thing is read after another by `++`. -/
instance : Append Extent :=
  ⟨append⟩

/-- A collection takes a step for its start and one for its end, if the end is reached. -/
def enclose (contents : Extent) : Extent :=
  ⟨contents.steps + (if contents.whole then 2 else 1), contents.whole⟩

end Extent

namespace Node

variable {ν : Type}

/-- The scalar that stands where nothing is written. -/
def blank : Node ν :=
  .scalar {} "" true

mutual

/-- How far the reading of a node comes. Scalars and aliases take one step. -/
def extent : Node ν → Extent
  | .alias _ => ⟨1, true⟩
  | .scalar .. => ⟨1, true⟩
  | .sequence _ items => (itemsExtent items).enclose
  | .mapping _ entries => (entriesExtent entries).enclose
  | .broken => ⟨0, false⟩

/-- How far the reading of several nodes comes. -/
def itemsExtent : List (Node ν) → Extent
  | [] => .zero
  | node :: rest => node.extent ++ itemsExtent rest

/-- How far the reading of several entries comes. -/
def entriesExtent : List (Node ν × Node ν) → Extent
  | [] => .zero
  | (key, value) :: rest => key.extent ++ value.extent ++ entriesExtent rest

end

mutual

/-- The nodes with an anchor, in the order in which they start. -/
def anchored : Node ν → List (ν × Node ν)
  | .scalar properties text plain =>
    properties.anchor.toList.map (·, .scalar properties text plain)
  | .sequence properties items =>
    properties.anchor.toList.map (·, .sequence properties items) ++ itemsAnchored items
  | .mapping properties entries =>
    properties.anchor.toList.map (·, .mapping properties entries) ++ entriesAnchored entries
  | .alias _ => []
  | .broken => []

/-- The nodes with an anchor among several nodes. -/
def itemsAnchored : List (Node ν) → List (ν × Node ν)
  | [] => []
  | node :: rest => node.anchored ++ itemsAnchored rest

/-- The nodes with an anchor among several entries. -/
def entriesAnchored : List (Node ν × Node ν) → List (ν × Node ν)
  | [] => []
  | (key, value) :: rest => key.anchored ++ value.anchored ++ entriesAnchored rest

end

end Node

end DemoBuild.Yaml
