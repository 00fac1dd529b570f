import DemoBuild.Session
import DemoBuild.Toolchain.Plan

/-!
# Running a plan

`compile` plans the build first, so that no tool runs if the plan fails, and then runs one step
after the other up to the first that fails.
-/

namespace DemoBuild

/-- Runs steps up to the first that fails. `last` is the phase of the step before them; the start of
each phase is logged. -/
def runSteps (context : Context) (runner : Runner) (last : Option Phase) :
    List Step → Action Unit
  | [] => return
  | step :: steps => do
    if last ≠ some step.phase then
      Action.log .info
        ("Running " ++ step.phase.name ++ " phase (" ++ context.mode.name ++ " mode)")
    try
      Action.run runner step.invocation
    catch e =>
      Action.log .error (step.phase.name ++ " phase aborted: " ++ e.message)
      throw e
    runSteps context runner (some step.phase) steps

/-- Makes the executable. -/
def compile (context : Context) (runner : Runner) (c : Compilation) : Action Unit := do
  let steps ← plan context c
  runSteps context runner none steps

end DemoBuild
