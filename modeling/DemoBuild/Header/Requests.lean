import DemoBuild.Context
import DemoBuild.Header.Bindings
import DemoBuild.Session

/-!
# Requested OpenGL symbols

The symbols that a demo uses: those that the engine itself needs, and those that the configuration
names. No symbol is requested twice, and a request never changes its position.
-/

namespace DemoBuild

/-- The symbols that are requested. -/
structure Requests where
  /-- The constants. -/
  constants : List String
  /-- The functions. -/
  functions : List String
  deriving DecidableEq, Repr

namespace Requests

/-- What the engine needs. -/
def initial : Requests :=
  { constants := ["GL_FRAGMENT_SHADER", "GL_VERTEX_SHADER"]
    functions := ["glAttachShader", "glCompileShader", "glCreateProgram", "glCreateShader",
      "glLinkProgram", "glShaderSource", "glUniform1fv", "glUseProgram"] }

/-- Appends a name unless it is there, and says whether it was appended. -/
def appendNew (names : List String) (name : String) : Bool × List String :=
  if name ∈ names then (false, names) else (true, names ++ [name])

/-- Requests a constant, and says whether the request is new. -/
def addConstant (r : Requests) (name : String) : Bool × Requests :=
  let (new, constants) := appendNew r.constants name
  (new, { r with constants })

/-- Requests a function, and says whether the request is new. -/
def addFunction (r : Requests) (name : String) : Bool × Requests :=
  let (new, functions) := appendNew r.functions name
  (new, { r with functions })

/-- What the engine needs and the configuration names. -/
def ofConfig (config : Config) : Requests :=
  let r := (config.texts "demo:gl:constants").foldl (fun r name => (r.addConstant name).2) initial
  (config.texts "demo:gl:functions").foldl (fun r name => (r.addFunction name).2) r

/-- The warning about a symbol that cannot be searched for. -/
def searchWarning (problem : String) : LogEntry :=
  ⟨.warning, "unable to search vendored header: " ++ problem⟩

/-- Why requested symbols cannot be searched for: constants, then functions. -/
def problems (r : Requests) (refusals : Refusals) : List String :=
  r.constants.filterMap (refusals .constant) ++ r.functions.filterMap (refusals .function)

/-- Takes the requested symbols from a header where some of them may be refused, with a warning for
each that is refused and then one for each that is missing. -/
def bindExcept (refusals : Refusals) (r : Requests) (header : String) : Action Bindings := do
  Action.logAll ((r.problems refusals).map searchWarning)
  let search := (Bindings.searchOf header).except refusals
  let bindings := Bindings.ofSearch search r.constants r.functions
  Action.logAll (bindings.missing.map fun m => ⟨.warning, m.message⟩)
  return bindings

/-- Takes the requested symbols from a header, with a warning for each that is missing. No symbol is
refused. -/
def bind (r : Requests) (header : String) : Action Bindings :=
  bindExcept (fun _ _ => none) r header

/-- The vendored header. -/
def headerPath (context : Context) : Except Error Path := do
  return (((← context.tool "glew").join ⟨"include"⟩).join ⟨"GL"⟩).join ⟨"glew.h"⟩

/-- The generated header with the bindings. -/
def render (r : Requests) (context : Context) : Action String := do
  let header ← Action.read (← headerPath context)
  return (← r.bind header).text

end Requests

end DemoBuild
