import DemoBuild.Generate
import DemoBuild.Manifest.Load
import DemoBuild.Shader.Validation
import DemoBuild.Toolchain.Compile

/-!
# Building demos

A build generates sources, validates the shader if a validator is configured, and makes the
executable. Each stage starts only after the one before it has succeeded. Time is left out: neither
the report nor the log tells how long a build takes.
-/

namespace DemoBuild

/-- What a build has made. -/
structure BuildReport where
  /-- The size of the executable in bytes, if it can be found out. -/
  executableSize : Option Nat
  deriving DecidableEq, Repr

/-- The size of a file; why it cannot be found out is logged. -/
def sizeOrLog (path : Path) : Action (Option Nat) := do
  match (← Action.files).size path with
  | .ok size => return some size
  | .error reason =>
    Action.log .error (Error.file path reason).message
    return none

/-- Logs what a build has made. -/
def logReport (executable : Path) (report : BuildReport) : Action Unit := do
  Action.log .info "Build successful."
  match report.executableSize with
  | some size =>
    Action.log .info
      ("Demo size: " ++ Number.natText size ++ " bytes (" ++ executable.text ++ ").")
  | none => Action.log .warning "Demo size unknown."

/-- Validates the shader if a validator is configured. -/
def validateIfConfigured (context : Context) (runner : Runner) (s : Shader) : Action Unit :=
  if context.config.contains ("tools:" ++ Validation.tool) then validate context runner s
  else Action.log .info "No shader validator configured, skipping validation"

/-- Builds a demo. -/
def build (context : Context) (runner : Runner) (s : Shader) (c : Compilation) :
    Action BuildReport := do
  Action.log .info ("Building demo in " ++ context.mode.name ++ " mode")
  let _ ← generateSources context s c
  validateIfConfigured context runner s
  compile context runner c
  let executable ← context.executable
  let report : BuildReport := ⟨← sizeOrLog executable⟩
  logReport executable report
  return report

/-- Builds the demo that the manifest of the context describes. -/
def buildDemo (context : Context) (runner : Runner) : Action BuildReport := do
  let demo ← Manifest.loadDemo context
  try
    build context runner demo.shader demo.compilation
  catch e =>
    Action.log .error "Build failed."
    throw e

end DemoBuild
