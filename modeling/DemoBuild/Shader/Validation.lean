import DemoBuild.Context
import DemoBuild.Session
import DemoBuild.Shader.Assembly

/-!
# Validating shaders

Every stage of every pass that has code is assembled, written to a file of its own and shown to the
validator. A failure does not end the sweep: all failures are reported together.
-/

namespace DemoBuild

namespace Validation

/-- The name of the validator among the tools. -/
def tool : String :=
  "glslangValidator"

/-- The file for a stage of a pass. -/
def stageFile (build : Path) (pass : Nat) (stage : Stage) : Path :=
  build.join ⟨"validate_p" ++ Number.natText pass ++ "." ++ stage.extension⟩

/-- The stages to validate, pass by pass. -/
def attempts (s : Shader) : List (Nat × Stage) :=
  s.passes.zipIdx.flatMap fun (p, index) => p.stages.map fun stage => (index, stage)

/-- Validates a stage of a pass. -/
def validateStage (runner : Runner) (program build : Path) (s : Shader) (pass : Nat)
    (stage : Stage) : Action Unit := do
  let input := stageFile build pass stage
  Action.log .info ("Validating pass #" ++ Number.natText pass ++ " " ++ stage.extension ++
    " shader: " ++ input.text)
  let source ← s.assemble (.stage stage pass)
  Action.write input source
  Action.run runner { tool, program, args := [input.text] }

/-- Validates a stage of a pass and gives the failure, if there is one. -/
def attempt (runner : Runner) (program build : Path) (s : Shader) (target : Nat × Stage) :
    Action (Option Error) :=
  try
    validateStage runner program build s target.1 target.2
    return none
  catch e =>
    Action.log .error ("pass #" ++ Number.natText target.1 ++ " " ++ target.2.name ++ " shader: " ++
      e.message)
    return some e

end Validation

open Validation in
/-- Validates all stages that have code. -/
def validate (context : Context) (runner : Runner) (s : Shader) : Action Unit := do
  context.config.require ["tools:" ++ tool]
  let program ← context.tool tool
  let build ← context.buildDirectory
  Action.makeDirectories build
  let failures := (← (attempts s).mapM (attempt runner program build s)).filterMap id
  if failures.isEmpty then return
  Action.log .error "Validation errors. Stopping."
  throw (.validation failures)

end DemoBuild
