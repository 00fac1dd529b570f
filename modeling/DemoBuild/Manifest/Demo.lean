import DemoBuild.Shader.Definition
import DemoBuild.Toolchain.Compilation

/-!
# Demos

A demo is its shader and what else is compiled into it.
-/

namespace DemoBuild

/-- A demo. -/
structure Demo where
  /-- Its shader. -/
  shader : Shader := {}
  /-- What else is compiled. -/
  compilation : Compilation := {}
  deriving DecidableEq, Inhabited

end DemoBuild
