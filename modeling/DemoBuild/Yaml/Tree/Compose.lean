import DemoBuild.Yaml.Error
import DemoBuild.Yaml.Node
import DemoBuild.Yaml.Tree.Scalar

/-!
# Trees from nodes

A node becomes a tree by replacing its aliases and reading its scalars. Anchors are numbered first:
an anchor gets as its number the count of different names so far, and an alias means the last node
with the number that its name had at that point. Nesting and the number of aliases that are followed
are limited. The first fault in document order counts, except that an alias is followed into nodes
which stand before it.
-/

namespace DemoBuild.Yaml

/-! ## Numbering of anchors -/

/-- The anchor names so far with their numbers. -/
abbrev AnchorNumbers :=
  List (String × Nat)

/-- Gives an anchor its number. -/
def AnchorNumbers.add (names : AnchorNumbers) (name : String) : Nat × AnchorNumbers :=
  (names.length, (name, names.length) :: names.filter (·.1 ≠ name))

/-- Numbers the anchor of a node. -/
def AnchorNumbers.number (names : AnchorNumbers) (properties : Properties String) :
    Properties Nat × AnchorNumbers :=
  match properties.anchor with
  | none => (⟨none, properties.tag⟩, names)
  | some name =>
    let (n, names) := names.add name
    (⟨some n, properties.tag⟩, names)

mutual

/-- Numbers the anchors of a node and below it. An alias without an anchor before it is broken;
after a broken node no names are given, because nothing behind it counts. -/
def numberAnchors (names : AnchorNumbers) : Node String → Node Nat × Option AnchorNumbers
  | .alias name =>
    match names.lookup name with
    | some n => (.alias n, some names)
    | none => (.broken, none)
  | .scalar properties text plain =>
    let (properties, names) := names.number properties
    (.scalar properties text plain, some names)
  | .sequence properties items =>
    let (properties, names) := names.number properties
    let (items, names) := numberItems names items
    (.sequence properties items, names)
  | .mapping properties entries =>
    let (properties, names) := names.number properties
    let (entries, names) := numberEntries names entries
    (.mapping properties entries, names)
  | .broken => (.broken, none)

/-- Numbers the anchors of several nodes. -/
def numberItems (names : AnchorNumbers) :
    List (Node String) → List (Node Nat) × Option AnchorNumbers
  | [] => ([], some names)
  | node :: rest =>
    match numberAnchors names node with
    | (node, none) => ([node], none)
    | (node, some names) =>
      let (rest, names) := numberItems names rest
      (node :: rest, names)

/-- Numbers the anchors of several entries. -/
def numberEntries (names : AnchorNumbers) :
    List (Node String × Node String) → List (Node Nat × Node Nat) × Option AnchorNumbers
  | [] => ([], some names)
  | (key, value) :: rest =>
    match numberAnchors names key with
    | (key, none) => ([(key, .broken)], none)
    | (key, some names) =>
      match numberAnchors names value with
      | (value, none) => ([(key, value)], none)
      | (value, some names) =>
        let (rest, names) := numberEntries names rest
        ((key, value) :: rest, names)

end

/-! ## Composition -/

/-- What composition needs to know of the whole document. -/
structure Links where
  /-- The nodes with their anchors, last one first. -/
  targets : List (Nat × Node Nat)
  /-- How many aliases may be followed. -/
  limit : Nat

/-- Composition counts the aliases that it follows. -/
abbrev Composing :=
  StateT Nat (Except Problem)

/-- The collections may be nested so deep. -/
def maxDepth : Nat := 128

/-- How many aliases may be followed for each step of the document. -/
def followsPerStep : Nat := 100

/-- The node that a node stands for. -/
def Links.follow (links : Links) : Node Nat → Composing (Node Nat)
  | .alias n => do
    modify (· + 1)
    if links.limit < (← get) then throw .tooManyReferences
    match links.targets.lookup n with
    | some node => return node
    | none => throw .malformed
  | node => return node

/-- Puts the document's own tag around a tree. -/
def withTag (tag : Option Tag) (t : Tree) : Tree :=
  match tag.bind Tag.ownName? with
  | some name => .tagged name t
  | none => t

/-- The tree of a scalar. Inside a tag of the document's own a scalar means what it means
without. -/
def composeScalar (tag : Option Tag) (text : String) (plain : Bool) : Except Problem Tree :=
  let untagged := if plain then plainScalar? text else some (.text text)
  let tree? :=
    match tag.filter (!Tag.isOwn ·) with
    | some tag => taggedScalar? tag text
    | none => untagged
  match tree? with
  | some t => .ok (withTag tag t)
  | none => .error .malformed

/-- The tree of a node, `depth` levels of collections deep at most. -/
def compose (links : Links) : (depth : Nat) → Node Nat → Composing Tree
  | 0, node => do
    match ← links.follow node with
    | .scalar properties text plain => composeScalar properties.tag text plain
    | _ => throw .malformed
  | depth + 1, node => do
    match ← links.follow node with
    | .scalar properties text plain => composeScalar properties.tag text plain
    | .sequence properties items =>
      return withTag properties.tag (.sequence (← items.mapM (compose links depth)))
    | .mapping properties entries =>
      let trees ← entries.foldlM (fun (trees : List (Tree × Tree)) (key, value) => do
        let key ← compose links depth key
        if trees.any fun entry => Tree.sameKey entry.1 key then throw .malformed
        let value ← compose links depth value
        return (key, value) :: trees) []
      return withTag properties.tag (.mapping trees.reverse)
    | .alias _ | .broken => throw .malformed

/-- The tree of a whole document. -/
def Tree.ofNode (node : Node String) : Except Problem Tree :=
  let (node, _) := numberAnchors [] node
  let links := ⟨node.anchored.reverse, node.extent.steps * followsPerStep⟩
  Prod.fst <$> (compose links maxDepth node).run 0

end DemoBuild.Yaml
