import DemoBuild.Files.Path

/-!
# Tool invocations

An invocation is one run of an external tool, before it takes place.
-/

namespace DemoBuild

/-- One run of an external tool. -/
structure Invocation where
  /-- The short name of the tool, for log and error texts. -/
  tool : String
  /-- The program to start. -/
  program : Path
  /-- The arguments. -/
  args : List String
  /-- The directory to start it in, if not the working directory. -/
  directory : Option Path := none
  deriving DecidableEq, Repr, Inhabited

/-- The program and its arguments, separated by spaces. -/
def Invocation.commandLine (i : Invocation) : String :=
  " ".intercalate (i.program.text :: i.args)

end DemoBuild
