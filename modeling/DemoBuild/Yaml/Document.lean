import DemoBuild.Yaml.Node.Parser
import DemoBuild.Yaml.Token.Scanner
import DemoBuild.Yaml.Tree.Compose

/-!
# Reading a document

`Tree.parse` reads a text that holds a single document.
-/

namespace DemoBuild.Yaml

/-- The tree of the single document of a text. Whatever is wrong with the first document comes
before the complaint that there are others. -/
def Tree.parse (text : String) : Except Problem Tree := do
  let document := parseDocument (scan text.toList)
  let t ← Tree.ofNode document.node
  match document.remainder with
  | .nothing => return t
  | .more => throw .severalDocuments
  | .fault => throw .malformed

end DemoBuild.Yaml
