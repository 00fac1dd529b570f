/-!
# Shader stages

A pass of a demo consists of a vertex stage and a fragment stage.
-/

namespace DemoBuild

/-- A programmable stage of a pass. -/
inductive Stage where
  /-- Runs once for each vertex. -/
  | vertex
  /-- Runs once for each fragment. -/
  | fragment
  deriving DecidableEq, Repr, Inhabited

namespace Stage

/-- Both stages, in the order in which they are generated and validated. -/
def all : List Stage :=
  [.vertex, .fragment]

/-- The name of the stage. -/
def name : Stage → String
  | .vertex => "vertex"
  | .fragment => "fragment"

/-- The extension of a file that holds the code of the stage. -/
def extension : Stage → String
  | .vertex => "vert"
  | .fragment => "frag"

/-- The name of the stage inside a macro name. -/
def macroName : Stage → String
  | .vertex => "VERTEX"
  | .fragment => "FRAGMENT"

end Stage

end DemoBuild
