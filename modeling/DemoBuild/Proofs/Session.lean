import DemoBuild.Session

/-!
# What actions do to a session

The equations of the basic actions, and the tools that an action runs.

## Main definitions

* `Session.logged` and `Session.afterRun`: a session with more log entries, and after a tool run;
* `Runner.runIn`: the run of a tool that is started in a session;
* `Runner.LeavesFiles`: tools that change no files;
* `Action.OnlyReads`: the action reads files and logs; `Action.resultIn` is what it gives;
* `Action.RunsOnly` and `Action.RunsNothing`: the action runs only some tools, or none.

## Main results

* `Action.start_bind` and `Action.start_tryCatch`: actions one after the other, and caught failures;
* `Action.start_run`: a tool run;
* `Action.OnlyReads.bind`: actions one after the other only read if each of them does;
* `Action.RunsOnly.bind`: actions one after the other run only what each of them may run.
-/

namespace DemoBuild

namespace Session

/-- The session with more log entries. -/
def logged (s : Session) (entries : List LogEntry) : Session :=
  { s with log := s.log ++ entries }

/-- The session after a tool run. -/
def afterRun (s : Session) (run : ToolRun) : Session :=
  { s with files := run.result.files, runs := s.runs ++ [run] }

variable (s : Session)

@[simp]
theorem files_logged (entries : List LogEntry) : (s.logged entries).files = s.files := rfl

@[simp]
theorem log_logged (entries : List LogEntry) : (s.logged entries).log = s.log ++ entries := rfl

@[simp]
theorem runs_logged (entries : List LogEntry) : (s.logged entries).runs = s.runs := rfl

@[simp]
theorem files_afterRun (run : ToolRun) : (s.afterRun run).files = run.result.files := rfl

@[simp]
theorem log_afterRun (run : ToolRun) : (s.afterRun run).log = s.log := rfl

@[simp]
theorem runs_afterRun (run : ToolRun) : (s.afterRun run).runs = s.runs ++ [run] := rfl

/-- No entries change nothing. -/
@[simp]
theorem logged_nil : s.logged [] = s := by
  simp [logged]

/-- Entries that follow each other are entries. -/
@[simp]
theorem logged_logged (entries more : List LogEntry) :
    (s.logged entries).logged more = s.logged (entries ++ more) := by
  simp [logged]

end Session

/-- The run of a tool that is started in a session. -/
def Runner.runIn (runner : Runner) (invocation : Invocation) (s : Session) : ToolRun :=
  { invocation, files := s.files, log := s.log, result := runner s.runs s.files invocation }

/-- The runner leaves the files as it finds them. -/
def Runner.LeavesFiles (runner : Runner) : Prop :=
  ∀ earlier files invocation, (runner earlier files invocation).files = files

namespace Action

variable {α β : Type}

/-! ## Equations -/

@[simp]
theorem start_pure (a : α) (s : Session) : (pure a : Action α).start s = (.ok a, s) := rfl

@[simp]
theorem start_throw (e : Error) (s : Session) : (throw e : Action α).start s = (.error e, s) := rfl

/-- What cannot be computed fails without any change. -/
@[simp]
theorem start_liftM (r : Except Error α) (s : Session) : (liftM r : Action α).start s = (r, s) :=
  rfl

/-- A second action starts where the first one has ended, if it has succeeded. -/
theorem start_bind (action : Action α) (next : α → Action β) (s : Session) :
    (action >>= next).start s =
      match action.start s with
      | (.ok a, s) => (next a).start s
      | (.error e, s) => (.error e, s) := by
  rw [start, ExceptT.run_bind, StateT.run_bind]
  cases h : StateT.run (ExceptT.run action) s with
  | mk result after =>
    rw [start, h]
    cases result <;> rfl

/-- After a success the second action follows. -/
theorem start_bind_of_ok {action : Action α} {next : α → Action β} {s after : Session} {a : α}
    (h : action.start s = (.ok a, after)) : (action >>= next).start s = (next a).start after := by
  rw [start_bind, h]

/-- After a failure nothing follows. -/
theorem start_bind_of_error {action : Action α} {next : α → Action β} {s after : Session}
    {e : Error} (h : action.start s = (.error e, after)) :
    (action >>= next).start s = (.error e, after) := by
  rw [start_bind, h]

/-- After a success the second action follows where the first one has ended. -/
theorem start_bind_of_fst_eq_ok {action : Action α} {next : α → Action β} {s : Session} {a : α}
    (h : (action.start s).1 = .ok a) :
    (action >>= next).start s = (next a).start (action.start s).2 :=
  start_bind_of_ok (Prod.ext h rfl)

/-- After a failure everything ends where it has happened. -/
theorem start_bind_of_fst_eq_error {action : Action α} {next : α → Action β} {s : Session}
    {e : Error} (h : (action.start s).1 = .error e) :
    (action >>= next).start s = (.error e, (action.start s).2) :=
  start_bind_of_error (Prod.ext h rfl)

/-- Two actions one after the other succeed only if both do. -/
theorem exists_of_fst_start_bind_eq_ok {action : Action α} {next : α → Action β} {s : Session}
    {b : β} (h : ((action >>= next).start s).1 = .ok b) :
    ∃ a, (action.start s).1 = .ok a ∧ ((next a).start (action.start s).2).1 = .ok b := by
  cases hfirst : (action.start s).1 with
  | error e =>
    rw [start_bind_of_fst_eq_error hfirst] at h
    cases h
  | ok a =>
    rw [start_bind_of_fst_eq_ok hfirst] at h
    exact ⟨a, rfl, h⟩

/-- After what can be computed the second action follows at once. -/
theorem start_bind_liftM_of_eq_ok {r : Except Error α} {a : α} (h : r = .ok a)
    (next : α → Action β) (s : Session) :
    ((liftM r : Action α) >>= next).start s = (next a).start s :=
  start_bind_of_ok (by rw [start_liftM, h])

/-- What an action gives can be brought into another form. -/
theorem start_bind_pure (action : Action α) (f : α → β) (s : Session) :
    (action >>= fun a => pure (f a)).start s =
      (f <$> (action.start s).1, (action.start s).2) := by
  rw [start_bind]
  cases action.start s with
  | mk result after => cases result <;> rfl

/-- A failure is handled where it has happened. -/
theorem start_tryCatch (action : Action α) (handler : Error → Action α) (s : Session) :
    (tryCatch action handler).start s =
      match action.start s with
      | (.ok a, s) => (.ok a, s)
      | (.error e, s) => (handler e).start s := by
  change StateT.run (ExceptT.run (ExceptT.tryCatch action handler)) s = _
  rw [ExceptT.tryCatch, ExceptT.run_mk, StateT.run_bind]
  cases h : action.start s with
  | mk result after =>
    change StateT.run action s = (result, after) at h
    rw [h]
    cases result <;> rfl

@[simp]
theorem start_log (level : LogLevel) (text : String) (s : Session) :
    (log level text).start s = (.ok (), s.logged [⟨level, text⟩]) := rfl

@[simp]
theorem start_logAll (entries : List LogEntry) (s : Session) :
    (logAll entries).start s = (.ok (), s.logged entries) := rfl

@[simp]
theorem start_files (s : Session) : files.start s = (.ok s.files, s) := rfl

/-- Reading changes nothing. -/
@[simp]
theorem start_read (path : Path) (s : Session) :
    (read path).start s = ((s.files.read path).mapError (.file path), s) := by
  rw [read, start_bind_of_ok (start_files s)]
  cases s.files.read path <;> rfl

/-- A text that cannot be written changes nothing. -/
theorem start_write_of_error {path : Path} {text : String} {s : Session} {reason : FileError}
    (h : s.files.write path text = .error reason) :
    (write path text).start s = (.error (.file path reason), s) := by
  rw [write, start_bind_of_ok (start_files s), h]
  rfl

/-- A text that can be written changes the files. -/
theorem start_write_of_ok {path : Path} {text : String} {s : Session} {written : FileSystem}
    (h : s.files.write path text = .ok written) :
    (write path text).start s = (.ok (), { s with files := written }) := by
  rw [write, start_bind_of_ok (start_files s), h]
  rfl

/-- Making directories changes the files, also where it fails. -/
theorem start_makeDirectories (path : Path) (s : Session) :
    (makeDirectories path).start s =
      ((s.files.makeDirectories path).2.elim (.ok ()) fun reason => .error (.file path reason),
        { s with files := (s.files.makeDirectories path).1 }) := by
  rw [makeDirectories, start_bind_of_ok (start_files s)]
  cases s.files.makeDirectories path with
  | mk made failure? => cases failure? <;> rfl

/-- A tool run is recorded, whether it succeeds or fails. -/
@[simp]
theorem start_run (runner : Runner) (invocation : Invocation) (s : Session) :
    (run runner invocation).start s =
      ((runner.runIn invocation s).outcome, s.afterRun (runner.runIn invocation s)) := rfl

/-! ## Actions that only read -/

/-- What the action gives where these files are all there is. -/
def resultIn (action : Action α) (fs : FileSystem) : Except Error α :=
  (action.start { files := fs }).1

/-- The action changes nothing but the log, and what it gives depends on the files only. -/
def OnlyReads (action : Action α) : Prop :=
  ∀ s, ∃ entries, action.start s = (action.resultIn s.files, s.logged entries)

@[simp]
theorem resultIn_pure (a : α) (fs : FileSystem) : (Pure.pure a : Action α).resultIn fs = .ok a :=
  rfl

@[simp]
theorem resultIn_liftM (r : Except Error α) (fs : FileSystem) :
    (liftM r : Action α).resultIn fs = r := rfl

@[simp]
theorem resultIn_files (fs : FileSystem) : files.resultIn fs = .ok fs := rfl

@[simp]
theorem resultIn_log (level : LogLevel) (text : String) (fs : FileSystem) :
    (log level text).resultIn fs = .ok () := rfl

@[simp]
theorem resultIn_logAll (entries : List LogEntry) (fs : FileSystem) :
    (logAll entries).resultIn fs = .ok () := rfl

@[simp]
theorem resultIn_read (path : Path) (fs : FileSystem) :
    (read path).resultIn fs = (fs.read path).mapError (.file path) := by
  rw [resultIn, start_read]

/-- Two actions that only read give one after the other what they give. -/
theorem resultIn_bind {action : Action α} {next : α → Action β} (h : OnlyReads action)
    (hnext : ∀ a, OnlyReads (next a)) (fs : FileSystem) :
    (action >>= next).resultIn fs = action.resultIn fs >>= fun a => (next a).resultIn fs := by
  obtain ⟨entries, hstart⟩ := h { files := fs }
  rw [resultIn, start_bind, hstart]
  cases action.resultIn fs with
  | error e => rfl
  | ok a =>
    obtain ⟨more, hrest⟩ := hnext a (Session.logged { files := fs } entries)
    show ((next a).start _).1 = (next a).resultIn fs
    rw [hrest, Session.files_logged]

/-- What an action gives can be brought into another form. -/
@[simp]
theorem resultIn_map (f : α → β) (action : Action α) (fs : FileSystem) :
    (f <$> action).resultIn fs = f <$> action.resultIn fs := by
  rw [resultIn, map_eq_pure_bind, start_bind_pure]
  rfl

namespace OnlyReads

theorem pure (a : α) : OnlyReads (Pure.pure a : Action α) :=
  fun s => ⟨[], by rw [Session.logged_nil]; rfl⟩

theorem liftM (r : Except Error α) : OnlyReads (MonadLiftT.monadLift r : Action α) :=
  fun s => ⟨[], by rw [Session.logged_nil]; rfl⟩

theorem files : OnlyReads Action.files :=
  fun s => ⟨[], by rw [Session.logged_nil]; rfl⟩

theorem log (level : LogLevel) (text : String) : OnlyReads (Action.log level text) :=
  fun _ => ⟨[⟨level, text⟩], rfl⟩

theorem logAll (entries : List LogEntry) : OnlyReads (Action.logAll entries) :=
  fun _ => ⟨entries, rfl⟩

theorem read (path : Path) : OnlyReads (Action.read path) :=
  fun s => ⟨[], by rw [start_read, resultIn_read, Session.logged_nil]⟩

/-- Two actions that only read do so one after the other. -/
theorem bind {action : Action α} {next : α → Action β} (h : OnlyReads action)
    (hnext : ∀ a, OnlyReads (next a)) : OnlyReads (action >>= next) := by
  intro s
  obtain ⟨entries, hstart⟩ := h s
  rw [start_bind, hstart, resultIn_bind h hnext]
  cases action.resultIn s.files with
  | error e => exact ⟨entries, rfl⟩
  | ok a =>
    obtain ⟨more, hrest⟩ := hnext a (s.logged entries)
    exact ⟨entries ++ more, by rw [← Session.logged_logged]; exact hrest⟩

/-- An action that only reads does so if its result is brought into another form. -/
theorem map {action : Action α} (h : OnlyReads action) (f : α → β) : OnlyReads (f <$> action) := by
  rw [map_eq_pure_bind]
  exact h.bind fun a => pure (f a)

end OnlyReads

/-! ## The tools that an action runs -/

/-- The action runs only what is allowed. -/
def RunsOnly (allowed : Invocation → Prop) (action : Action α) : Prop :=
  ∀ s, ∃ ran, (action.start s).2.runs = s.runs ++ ran ∧ ∀ run ∈ ran, allowed run.invocation

/-- The action runs no tools. -/
abbrev RunsNothing (action : Action α) : Prop :=
  RunsOnly (fun _ => False) action

/-- The runs of an action that runs no tools are those before it. -/
theorem RunsNothing.runs_eq {action : Action α} (h : RunsNothing action) (s : Session) :
    (action.start s).2.runs = s.runs := by
  obtain ⟨ran, hran, hnone⟩ := h s
  rw [hran, List.eq_nil_iff_forall_not_mem.mpr hnone, List.append_nil]

/-- What only reads runs no tools. -/
theorem OnlyReads.runsNothing {action : Action α} (h : OnlyReads action) : RunsNothing action := by
  intro s
  obtain ⟨entries, hstart⟩ := h s
  exact ⟨[], by rw [hstart, Session.runs_logged, List.append_nil], by simp⟩

namespace RunsOnly

variable {allowed : Invocation → Prop}

/-- An action without runs runs only what is allowed. -/
theorem of_runs_eq {action : Action α} (h : ∀ s, (action.start s).2.runs = s.runs) :
    RunsOnly allowed action :=
  fun s => ⟨[], by rw [h, List.append_nil], by simp⟩

theorem pure (a : α) : RunsOnly allowed (Pure.pure a : Action α) :=
  of_runs_eq fun _ => rfl

theorem throw (e : Error) : RunsOnly allowed (MonadExcept.throw e : Action α) :=
  of_runs_eq fun _ => rfl

theorem liftM (r : Except Error α) : RunsOnly allowed (MonadLiftT.monadLift r : Action α) :=
  of_runs_eq fun _ => rfl

/-- Two actions that run only what is allowed do so one after the other. -/
theorem bind {action : Action α} {next : α → Action β} (h : RunsOnly allowed action)
    (hnext : ∀ a, RunsOnly allowed (next a)) : RunsOnly allowed (action >>= next) := by
  intro s
  obtain ⟨ran, hran, hallowed⟩ := h s
  rw [start_bind]
  cases hstart : action.start s with
  | mk result after =>
    rw [hstart] at hran
    cases result with
    | error e => exact ⟨ran, hran, hallowed⟩
    | ok a =>
      obtain ⟨rest, hrest, hallowedRest⟩ := hnext a after
      refine ⟨ran ++ rest, by rw [hrest, hran, List.append_assoc], ?_⟩
      exact List.forall_mem_append.mpr ⟨hallowed, hallowedRest⟩

theorem log (level : LogLevel) (text : String) : RunsOnly allowed (Action.log level text) :=
  of_runs_eq fun _ => rfl

theorem logAll (entries : List LogEntry) : RunsOnly allowed (Action.logAll entries) :=
  of_runs_eq fun _ => rfl

theorem files : RunsOnly allowed Action.files :=
  of_runs_eq fun _ => rfl

theorem read (path : Path) : RunsOnly allowed (Action.read path) :=
  of_runs_eq fun s => by rw [start_read]

theorem write (path : Path) (text : String) : RunsOnly allowed (Action.write path text) := by
  refine of_runs_eq fun s => ?_
  cases h : s.files.write path text with
  | error reason => rw [start_write_of_error h]
  | ok written => rw [start_write_of_ok h]

theorem makeDirectories (path : Path) : RunsOnly allowed (Action.makeDirectories path) :=
  of_runs_eq fun s => by rw [start_makeDirectories]

end RunsOnly

end Action

end DemoBuild
