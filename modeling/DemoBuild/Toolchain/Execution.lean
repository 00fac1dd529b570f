import DemoBuild.Session

/-!
# Tools that are really started

The runner that starts programs and waits for them to end. What the programs of a machine do is not
part of a build, so it is a parameter: `Programs` says whether a program can be started, which files
it leaves, and with which status it ends. What a status means for the build is decided here.
-/

namespace DemoBuild

/-- The status that a program ends with, as the system reports it. -/
structure ExitStatus where
  /-- The exit code, if the program has ended by itself. -/
  code? : Option Int
  /-- The signal that has stopped the program, if the system knows of one. -/
  signal? : Option Int
  deriving DecidableEq, Repr

namespace ExitStatus

/-- The program has succeeded. -/
def isSuccess (status : ExitStatus) : Bool :=
  status.code? == some 0

/-- The failure that the status stands for, if it is one. A code counts before a signal, and a
status with neither of them counts as the code -1. -/
def failure? (status : ExitStatus) : Option ToolFailure :=
  if status.isSuccess then none
  else
    match status.code?, status.signal? with
    | some code, _ => some (.ended (.code code))
    | none, some signal => some (.ended (.signal signal))
    | none, none => some (.ended (.code (-1)))

end ExitStatus

/-- What the programs of a machine do: given the files, the program, its arguments and the directory
to start it in, the status that it ends with and the files that it leaves, or the reason why it
cannot be started. -/
abbrev Programs :=
  FileSystem → Path → List String → Option Path → Except StartError (ExitStatus × FileSystem)

/-- What becomes of an invocation. The name of the tool is not known to its program. -/
def Programs.start (programs : Programs) (files : FileSystem) (invocation : Invocation) :
    Except StartError (ExitStatus × FileSystem) :=
  programs files invocation.program invocation.args invocation.directory

/-- The runner that starts the program of an invocation and waits for its end. A program that cannot
be started leaves the files as they are. -/
def Runner.starting (programs : Programs) : Runner := fun _ files invocation =>
  match programs.start files invocation with
  | .error reason => { files, failure? := some (.notStarted reason) }
  | .ok (status, left) => { files := left, failure? := status.failure? }

/-- Announces a tool, starts it and waits for its end. -/
def Action.execute (programs : Programs) (invocation : Invocation) : Action Unit := do
  Action.log .info ("Executing " ++ invocation.commandLine)
  Action.run (.starting programs) invocation

end DemoBuild
