import DemoBuild.Config.Tree
import DemoBuild.Yaml.Document

/-!
# Loading configurations

The configuration of a demo has three layers: the document in its directory, the environment, which
wins over the document, and defaults for what both leave open.
-/

namespace DemoBuild

/-- The settings that the environment can give. -/
structure Environment where
  /-- The directory for generated files. -/
  buildDirectory : Option String := none
  /-- The directory for finished demos. -/
  distDirectory : Option String := none
  /-- The executable. -/
  executable : Option String := none
  /-- The directory of the demo. -/
  demoDirectory : Option String := none

/-- The entries of the environment layer. -/
def Environment.entries (env : Environment) : List (String × Value) :=
  [("paths:build", env.buildDirectory), ("paths:dist", env.distDirectory),
    ("paths:exe", env.executable), ("directory", env.demoDirectory)].filterMap
    fun (key, text?) => text?.map fun text => (key, .text text)

namespace Config

/-- The name of the configuration document of a demo. -/
def fileName : Path :=
  ⟨"demo.yml"⟩

/-- Reads a configuration from the text of a document. -/
def parse (text : String) : Action Config := do
  match Yaml.Tree.parse text with
  | .error problem => throw (.document problem)
  | .ok t =>
    Action.logAll (warnings t)
    return ofTree t

/-- Reads a configuration from a file, if the file exists. -/
def load? (path : Path) : Action (Option Config) := do
  if (← Action.files).isFile path then
    return some (← parse (← Action.read path))
  else return none

/-- The values for what the other layers leave open. -/
def defaults (root : Path) : List (String × Value) :=
  let dist := root.join ⟨"dist"⟩
  [("directory", .text root.text), ("paths:build", .text (root.join ⟨"build"⟩).text),
    ("paths:dist", .text dist.text), ("paths:exe", .text (dist.join ⟨"demo.exe"⟩).text),
    ("paths:engine", .text "engine"), ("tools:cl", .text "cl"), ("tools:link", .text "link")]

/-- Fills in what is open. -/
def fillDefaults (c : Config) (root : Path) : Config :=
  (defaults root).foldl (fun c entry => c.setDefault entry.1 entry.2) c

/-- The configuration of the demo in the directory `root`. -/
def init (env : Environment) (root : Path) : Action Config := do
  let document := (← load? (root.join fileName)).getD empty
  return (document.setAll env.entries).fillDefaults root

end Config

end DemoBuild
