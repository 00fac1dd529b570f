import DemoBuild.Session

/-!
# Scripted tools

Runners whose failures are listed in advance, by the tool and the number of its run.
-/

namespace DemoBuild

/-- A failure that is known in advance. -/
structure ScriptedFailure where
  /-- The tool. -/
  tool : String
  /-- The number of the run of this tool, counted from zero. -/
  run : Nat
  /-- The failure. -/
  failure : ToolFailure
  deriving DecidableEq, Repr

/-- The runner that fails as listed and leaves the files as they are; of several failures for one
run the first counts. -/
def Runner.scripted (script : List ScriptedFailure) : Runner := fun before files invocation =>
  let number := before.countP fun run => run.invocation.tool = invocation.tool
  let failure? := script.find? fun f => f.tool = invocation.tool ∧ f.run = number
  { files, failure? := failure?.map ScriptedFailure.failure }

end DemoBuild
