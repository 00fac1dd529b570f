/-!
# Document trees

The contents of a document: scalars, lists, mappings whose entries keep their order, and nodes with
a tag of the document's own.
-/

namespace DemoBuild.Yaml

/-- The contents of a document. -/
inductive Tree where
  /-- Nothing. -/
  | null
  /-- A truth value. -/
  | bool (value : Bool)
  /-- An integer. -/
  | integer (value : Int)
  /-- A floating-point number. -/
  | float (value : Float)
  /-- A text. -/
  | text (value : String)
  /-- A list. -/
  | sequence (items : List Tree)
  /-- A mapping; no key occurs twice. -/
  | mapping (entries : List (Tree × Tree))
  /-- A node with a tag, given without its exclamation mark. -/
  | tagged (tag : String) (node : Tree)
  deriving Inhabited

namespace Tree

/-- The node below all tags. -/
def untagged : Tree → Tree
  | .tagged _ node => node.untagged
  | t => t

/-- The text of a node, tags aside. -/
def text? (t : Tree) : Option String :=
  match t.untagged with
  | .text s => some s
  | _ => none

mutual

/-- The two nodes are equal as keys: the order of mapping entries does not count, an integer is no
floating-point number, and what is no number equals itself. -/
def sameKey : Tree → Tree → Bool
  | .null, .null => true
  | .bool a, .bool b => a == b
  | .integer a, .integer b => a == b
  | .float a, .float b => a == b || (a.isNaN && b.isNaN)
  | .text a, .text b => a == b
  | .sequence as, .sequence bs => sameItems as bs
  | .mapping as, .mapping bs => as.length == bs.length && entriesIn as bs
  | .tagged tag a, .tagged tag' b => tag == tag' && sameKey a b
  | _, _ => false

/-- The lists are equal item by item. -/
def sameItems : List Tree → List Tree → Bool
  | [], [] => true
  | a :: as, b :: bs => sameKey a b && sameItems as bs
  | _, _ => false

/-- Each of the entries occurs among `others`. -/
def entriesIn : List (Tree × Tree) → List (Tree × Tree) → Bool
  | [], _ => true
  | (k, v) :: rest, others => entryIn k v others && entriesIn rest others

/-- The entry occurs among `others`. -/
def entryIn (k v : Tree) : List (Tree × Tree) → Bool
  | [] => false
  | (k', v') :: others => (sameKey k k' && sameKey v v') || entryIn k v others

end

end Tree

end DemoBuild.Yaml
