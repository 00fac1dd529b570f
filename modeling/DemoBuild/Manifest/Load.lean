import DemoBuild.Context
import DemoBuild.Manifest.Reading
import DemoBuild.Manifest.References
import DemoBuild.Yaml.Document

/-!
# Loading demos

A demo is described by a manifest in its directory.
-/

namespace DemoBuild

namespace Manifest

/-- The name of the manifest. -/
def fileName : Path :=
  ⟨"demo-definition.yml"⟩

/-- The demo that a document tree describes. -/
def ofTree (t : Yaml.Tree) : Except Error Demo :=
  match demo t with
  | .ok d => .ok d
  | .error reason => .error (.document (.mismatch reason))

/-- Reads a demo from the text of a manifest. File references are seen from `base`. -/
def parse (text : String) (base : Path) : Action Demo := do
  match Yaml.Tree.parse text with
  | .error problem => throw (.document problem)
  | .ok t => ofTree (← resolve base t)

/-- Reads a demo from a file. -/
def load (path base : Path) : Action Demo := do
  parse (← Action.read path) base

/-- Reads the demo of a context from its directory. -/
def loadDemo (context : Context) : Action Demo := do
  let directory ← context.demoDirectory
  load (directory.join fileName) directory

end Manifest

end DemoBuild
