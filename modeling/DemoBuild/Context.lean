import DemoBuild.Config.Store

/-!
# Build contexts

What every step of a build may consult: the configuration and the mode, which is decided once.
-/

namespace DemoBuild

/-- What a build is for. -/
inductive BuildMode where
  /-- Looking for faults: linked with debug information. -/
  | debug
  /-- Publishing: packed as small as possible. -/
  | release
  deriving DecidableEq, Repr

namespace BuildMode

/-- The mode is that of looking for faults. -/
def isDebug (mode : BuildMode) : Bool :=
  mode == .debug

/-- The name of the mode. -/
def name : BuildMode → String
  | .debug => "debug"
  | .release => "release"

end BuildMode

/-- What the steps of a build consult. -/
structure Context where
  /-- The configuration. -/
  config : Config
  /-- The mode. -/
  mode : BuildMode

namespace Context

/-- The context whose mode the configuration gives. -/
def ofConfig (config : Config) : Context :=
  ⟨config, if config.flag "debug" then .debug else .release⟩

/-- The directory for generated files. -/
def buildDirectory (context : Context) : Except Error Path :=
  context.config.path "paths:build"

/-- The directory of the demo. -/
def demoDirectory (context : Context) : Except Error Path :=
  context.config.path "directory"

/-- The executable. -/
def executable (context : Context) : Except Error Path :=
  context.config.path "paths:exe"

/-- The directory of the engine. -/
def engineDirectory (context : Context) : Except Error Path :=
  context.config.path "paths:engine"

/-- The path of an external tool. -/
def tool (context : Context) (name : String) : Except Error Path :=
  context.config.path ("tools:" ++ name)

end Context

end DemoBuild
