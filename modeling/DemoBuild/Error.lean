import DemoBuild.Files.Error
import DemoBuild.Files.Path
import DemoBuild.Shader.Stage
import DemoBuild.Yaml.Error

/-!
# Failures of a build

Every way in which a step of a build can fail, and the wording of each.
-/

namespace DemoBuild

/-- The shape a configuration value should have. -/
inductive ValueShape where
  /-- Anything but a list. -/
  | text
  /-- An integer. -/
  | integer
  /-- A number. -/
  | number
  deriving DecidableEq, Repr

/-- The shape in words. -/
def ValueShape.describe : ValueShape → String
  | .text => "a string"
  | .integer => "an integer"
  | .number => "a number"

/-- How a tool ended that did not succeed. -/
inductive ExitCause where
  /-- It ended with an exit code. -/
  | code (code : Int)
  /-- A signal stopped it. -/
  | signal (signal : Int)
  deriving DecidableEq, Repr

/-- Why a build fails. -/
inductive Error where
  /-- A file cannot be read or written. -/
  | file (path : Path) (reason : FileError)
  /-- A pass has no code for a stage that is asked for. -/
  | missingStageCode (pass : Nat) (stage : Stage)
  /-- Two uniform arrays have one type. -/
  | duplicateUniformArray (typeName : String)
  /-- A tool ended without success. -/
  | tool (name : String) (cause : ExitCause)
  /-- A tool could not be started. -/
  | toolStart (name : String) (reason : StartError)
  /-- Required configuration keys are missing. -/
  | missingConfig (keys : List String)
  /-- A configuration value has another shape. -/
  | invalidConfig (key : String) (expected : ValueShape)
  /-- The validator refused shader stages. -/
  | validation (failures : List Error)
  /-- A document cannot be read. -/
  | document (problem : Yaml.Problem)

namespace Error

/-- How the tool ended, if the failure is that of a tool that was started. -/
def exitCause? : Error → Option ExitCause
  | .tool _ cause => some cause
  | _ => none

mutual

/-- The failure in words. -/
def message : Error → String
  | .file path reason => "unable to access " ++ path.text ++ ": " ++ reason.message
  | .missingStageCode pass stage =>
    "pass " ++ Number.natText pass ++ " has no " ++ stage.name ++ " code"
  | .duplicateUniformArray typeName =>
    "uniform array type " ++ typeName ++ " is declared more than once"
  | .tool name (.code code) => name ++ " exited with code " ++ Number.intText code ++ "."
  | .tool name (.signal signal) =>
    name ++ " was stopped by signal " ++ Number.intText signal ++ "."
  | .toolStart name reason => "unable to start " ++ name ++ ": " ++ reason.message
  | .missingConfig keys => "missing required configuration keys: " ++ ", ".intercalate keys
  | .invalidConfig key expected =>
    "configuration key " ++ key ++ " is not " ++ expected.describe
  | .validation failures =>
    "shader validation failed: " ++ "; ".intercalate (messages failures)
  | .document problem => problem.message

/-- Several failures in words. -/
def messages : List Error → List String
  | [] => []
  | e :: es => e.message :: messages es

end

end Error

end DemoBuild
