import DemoBuild.Error
import DemoBuild.Files.System
import DemoBuild.Toolchain.Invocation

/-!
# Sessions

A session is all that the steps of a build share and change: the files, the log, and the tool runs
so far. An `Action` is a step: it may fail, and what it changed before it failed stays changed.
Tools are known by what their runs leave behind only: a `Runner` says which files a run leaves and
how it ends, given the runs before it and the files that it finds. A runner fails with failures of
the tool that it runs and with no others, as the runner that starts programs and the scripted one
do; so a failure of any other kind comes from the build itself.
-/

namespace DemoBuild

/-- The importance of a log entry. -/
inductive LogLevel where
  /-- Something failed. -/
  | error
  /-- Something is suspicious. -/
  | warning
  /-- A step of the build. -/
  | info
  /-- A detail. -/
  | debug
  deriving DecidableEq, Repr

/-- One line of the log. -/
structure LogEntry where
  /-- Its importance. -/
  level : LogLevel
  /-- Its text. -/
  text : String
  deriving DecidableEq, Repr

/-- How a tool run fails. These are all the failures that a runner can report: none of them is that
of a file, of a configuration or of a shader. -/
inductive ToolFailure where
  /-- The tool ended without success. -/
  | ended (cause : ExitCause)
  /-- The tool could not be started. -/
  | notStarted (reason : StartError)
  deriving DecidableEq, Repr

/-- The failure of a run of the named tool. -/
def ToolFailure.error (tool : String) : ToolFailure → Error
  | .ended cause => .tool tool cause
  | .notStarted reason => .toolStart tool reason

/-- What a tool run leaves behind. -/
structure ToolResult where
  /-- The files. -/
  files : FileSystem
  /-- How the run failed, if it did. -/
  failure? : Option ToolFailure

/-- A tool run that took place. -/
structure ToolRun where
  /-- What was run. -/
  invocation : Invocation
  /-- The files as the tool found them. -/
  files : FileSystem
  /-- The log as it was when the run began. -/
  log : List LogEntry
  /-- What the run left behind. -/
  result : ToolResult

/-- How a run ended. -/
def ToolRun.outcome (run : ToolRun) : Except Error Unit :=
  match run.result.failure? with
  | none => .ok ()
  | some failure => .error (failure.error run.invocation.tool)

/-- How tools behave: what a run leaves behind, given the runs before it, the files that it finds
and what is run. Whatever a runner does, a run of it fails with a `ToolFailure` of the tool. -/
abbrev Runner :=
  List ToolRun → FileSystem → Invocation → ToolResult

/-- What the steps of a build share and change. -/
structure Session where
  /-- The files. -/
  files : FileSystem
  /-- The log, oldest entry first. -/
  log : List LogEntry := []
  /-- The tool runs, oldest first. -/
  runs : List ToolRun := []

/-- A step of a build. -/
abbrev Action :=
  ExceptT Error (StateM Session)

namespace Action

/-- Runs a step. -/
def start {α : Type} (action : Action α) (session : Session) : Except Error α × Session :=
  (ExceptT.run action).run session

/-- Appends to the log. -/
def log (level : LogLevel) (text : String) : Action Unit :=
  modify fun session => { session with log := session.log ++ [⟨level, text⟩] }

/-- Appends several entries to the log. -/
def logAll (entries : List LogEntry) : Action Unit :=
  modify fun session => { session with log := session.log ++ entries }

/-- The files as they are now. -/
def files : Action FileSystem :=
  return (← get).files

/-- Reads the text of a file. -/
def read (path : Path) : Action String := do
  match (← files).read path with
  | .ok text => return text
  | .error reason => throw (.file path reason)

/-- Writes a text to a file. -/
def write (path : Path) (text : String) : Action Unit := do
  match (← files).write path text with
  | .ok files => modify fun session => { session with files := files }
  | .error reason => throw (.file path reason)

/-- Creates a directory and the directories around it where they are missing. -/
def makeDirectories (path : Path) : Action Unit := do
  let (files, failure?) := (← files).makeDirectories path
  modify fun session => { session with files := files }
  match failure? with
  | none => return
  | some reason => throw (.file path reason)

/-- Runs a tool. -/
def run (runner : Runner) (invocation : Invocation) : Action Unit := do
  let found ← get
  let result := runner found.runs found.files invocation
  let run : ToolRun := { invocation, files := found.files, log := found.log, result }
  set { found with files := result.files, runs := found.runs ++ [run] }
  run.outcome

end Action

end DemoBuild
