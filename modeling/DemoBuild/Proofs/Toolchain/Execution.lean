import DemoBuild.Proofs.Toolchain.Compile
import DemoBuild.Toolchain.Execution

/-!
# What the end of a program says about its run

A run of a real program succeeds if the program can be started and ends with the exit code 0, and in
no other way. A run that fails says why: the program could not be started, it has ended with another
code, or a signal has stopped it. Nothing is assumed about the programs.

## Main definitions

* `ExitStatus.Reports`: what a status says about an end without success.

## Main results

* `ExitStatus.failure?_of_reports`: which failure a status stands for;
* `ToolRun.outcome_eq_ok_iff_of_starting` and `ToolRun.outcome_eq_error_iff_of_starting`: how the
  run of a program goes;
* `Runner.Answers.outcome_eq_ok_iff`: which of several runs succeed;
* `Action.execute_reports_status`: one run, its log line and its result.
-/

namespace DemoBuild

namespace ExitStatus

/-- The status says that the program has ended without success, and how. -/
inductive Reports (status : ExitStatus) : ExitCause → Prop where
  /-- The program has ended with a code other than 0. -/
  | code {code : Int} (hcode : status.code? = some code) (hne : code ≠ 0) :
    Reports status (.code code)
  /-- A signal has stopped the program. -/
  | signal {signal : Int} (hcode : status.code? = none) (hsignal : status.signal? = some signal) :
    Reports status (.signal signal)
  /-- Nothing is known about the end, which is told as the code -1. -/
  | unknown (hcode : status.code? = none) (hsignal : status.signal? = none) :
    Reports status (.code (-1))

variable {status : ExitStatus}

/-- What is reported as a failure is not the exit code 0. -/
theorem Reports.code_ne_zero {cause : ExitCause} (h : status.Reports cause) :
    status.code? ≠ some 0 := by
  cases h with
  | code hcode hne => simpa [hcode] using hne
  | signal hcode => simp [hcode]
  | unknown hcode => simp [hcode]

/-- The exit code 0 stands for a success. -/
theorem failure?_of_code_eq_zero (h : status.code? = some 0) : status.failure? = none := by
  rw [failure?, isSuccess, h]
  rfl

/-- A status stands for the failure that it reports. -/
theorem failure?_of_reports {cause : ExitCause} (h : status.Reports cause) :
    status.failure? = some (.ended cause) := by
  -- a code is looked for before a signal, so the three cases exclude each other
  have hfails : status.isSuccess = false := by simpa [isSuccess] using h.code_ne_zero
  rw [failure?, hfails]
  cases h with
  | code hcode => simp [hcode]
  | signal hcode hsignal => simp [hcode, hsignal]
  | unknown hcode hsignal => simp [hcode, hsignal]

/-- A status reports one failure only. -/
theorem Reports.unique {cause cause' : ExitCause} (h : status.Reports cause)
    (h' : status.Reports cause') : cause = cause' := by
  have hsome := failure?_of_reports h
  rw [failure?_of_reports h'] at hsome
  exact (ToolFailure.ended.inj (Option.some.inj hsome)).symm

/-- Each status is that of a success, or reports a failure. -/
theorem code_eq_zero_or_reports (status : ExitStatus) :
    status.code? = some 0 ∨ ∃ cause, status.Reports cause := by
  cases hcode : status.code? with
  | some code =>
    by_cases hzero : code = 0
    · exact .inl (by rw [hzero])
    · exact .inr ⟨_, .code hcode hzero⟩
  | none =>
    cases hsignal : status.signal? with
    | some signal => exact .inr ⟨_, .signal hcode hsignal⟩
    | none => exact .inr ⟨_, .unknown hcode hsignal⟩

end ExitStatus

namespace ToolRun

variable {programs : Programs} {earlier : List ToolRun} {run : ToolRun}

/-- The program of the run cannot be started. -/
theorem outcome_of_start_eq_error {reason : StartError}
    (hrun : run.result = Runner.starting programs earlier run.files run.invocation)
    (h : programs.start run.files run.invocation = .error reason) :
    run.outcome = .error (.toolStart run.invocation.tool reason) := by
  rw [outcome, hrun, Runner.starting, h]
  rfl

/-- The program of the run ends with the code 0. -/
theorem outcome_of_code_eq_zero {status : ExitStatus} {left : FileSystem}
    (hrun : run.result = Runner.starting programs earlier run.files run.invocation)
    (h : programs.start run.files run.invocation = .ok (status, left))
    (hcode : status.code? = some 0) : run.outcome = .ok () := by
  rw [outcome, hrun, Runner.starting, h]
  dsimp only
  rw [ExitStatus.failure?_of_code_eq_zero hcode]

/-- The program of the run ends without success. -/
theorem outcome_of_reports {status : ExitStatus} {left : FileSystem} {cause : ExitCause}
    (hrun : run.result = Runner.starting programs earlier run.files run.invocation)
    (h : programs.start run.files run.invocation = .ok (status, left))
    (hcause : status.Reports cause) : run.outcome = .error (.tool run.invocation.tool cause) := by
  rw [outcome, hrun, Runner.starting, h]
  dsimp only
  rw [ExitStatus.failure?_of_reports hcause]
  rfl

/-- The run of a program succeeds if the program can be started and ends with the code 0. -/
theorem outcome_eq_ok_iff_of_starting
    (hrun : run.result = Runner.starting programs earlier run.files run.invocation) :
    run.outcome = .ok () ↔ ∃ status left,
      programs.start run.files run.invocation = .ok (status, left) ∧ status.code? = some 0 := by
  constructor
  · intro hok
    -- any other end would be reported, and a program that cannot be started is a failure too
    cases hstart : programs.start run.files run.invocation with
    | error reason => simp [outcome_of_start_eq_error hrun hstart] at hok
    | ok ended =>
      obtain ⟨status, left⟩ := ended
      rcases status.code_eq_zero_or_reports with hcode | ⟨cause, hcause⟩
      · exact ⟨status, left, rfl, hcode⟩
      · simp [outcome_of_reports hrun hstart hcause] at hok
  · rintro ⟨status, left, hstart, hcode⟩
    exact outcome_of_code_eq_zero hrun hstart hcode

/-- The run of a program fails if the program cannot be started, or ends without success. The
failure names the tool, and says what has become of its program. -/
theorem outcome_eq_error_iff_of_starting
    (hrun : run.result = Runner.starting programs earlier run.files run.invocation) {e : Error} :
    run.outcome = .error e ↔
      (∃ reason, programs.start run.files run.invocation = .error reason ∧
        e = .toolStart run.invocation.tool reason) ∨
      ∃ status left cause, programs.start run.files run.invocation = .ok (status, left) ∧
        status.Reports cause ∧ e = .tool run.invocation.tool cause := by
  constructor
  · intro hfailed
    cases hstart : programs.start run.files run.invocation with
    | error reason =>
      rw [outcome_of_start_eq_error hrun hstart] at hfailed
      exact .inl ⟨reason, rfl, (Except.error.inj hfailed).symm⟩
    | ok ended =>
      obtain ⟨status, left⟩ := ended
      rcases status.code_eq_zero_or_reports with hcode | ⟨cause, hcause⟩
      · simp [outcome_of_code_eq_zero hrun hstart hcode] at hfailed
      · rw [outcome_of_reports hrun hstart hcause] at hfailed
        exact .inr ⟨status, left, cause, rfl, hcause, (Except.error.inj hfailed).symm⟩
  · rintro (⟨reason, hstart, rfl⟩ | ⟨status, left, cause, hstart, hcause, rfl⟩)
    · exact outcome_of_start_eq_error hrun hstart
    · exact outcome_of_reports hrun hstart hcause

end ToolRun

/-! ## Runs of real programs -/

variable {programs : Programs}

/-- Of the runs of real programs, those succeed whose programs can be started and end with the
code 0. -/
theorem Runner.Answers.outcome_eq_ok_iff {earlier ran : List ToolRun} {files : FileSystem}
    (h : (Runner.starting programs).Answers earlier files ran) {run : ToolRun}
    (hmem : run ∈ ran) :
    run.outcome = .ok () ↔ ∃ status left,
      programs.start run.files run.invocation = .ok (status, left) ∧ status.code? = some 0 := by
  obtain ⟨i, hi⟩ := List.mem_iff_getElem?.mp hmem
  exact ToolRun.outcome_eq_ok_iff_of_starting (h i run hi).2

/-- A program that is really started is announced in the log before. It succeeds with the exit
code 0 only, and each failure names the tool and says what has become of the program. A program that
cannot be started leaves the files as they are. -/
theorem Action.execute_reports_status (programs : Programs) (invocation : Invocation)
    (s : Session) :
    let ended := (execute programs invocation).start s
    ended.2.log = s.log ++ [⟨.info, "Executing " ++ invocation.commandLine⟩] ∧
    (ended.1 = .ok () ↔ ∃ status left,
      programs.start s.files invocation = .ok (status, left) ∧ status.code? = some 0) ∧
    (∀ e, ended.1 = .error e ↔
      (∃ reason, programs.start s.files invocation = .error reason ∧
        e = .toolStart invocation.tool reason) ∨
      ∃ status left cause, programs.start s.files invocation = .ok (status, left) ∧
        status.Reports cause ∧ e = .tool invocation.tool cause) ∧
    (∀ status left, programs.start s.files invocation = .ok (status, left) →
      ended.2.files = left) ∧
    ∀ reason, programs.start s.files invocation = .error reason → ended.2.files = s.files := by
  intro ended
  have hended : ended = (execute programs invocation).start s := rfl
  rw [execute, start_bind_of_ok (start_log ..), start_run] at hended
  generalize hbegun : s.logged _ = begun at hended
  -- the announcement changes nothing that the program could see
  have hfiles : begun.files = s.files := by rw [← hbegun, Session.files_logged]
  have hrun : ((Runner.starting programs).runIn invocation begun).result =
      Runner.starting programs begun.runs begun.files invocation := rfl
  refine ⟨by rw [hended, ← hbegun]; rfl, ?_, fun e => ?_, fun status left hstart => ?_,
    fun reason hstart => ?_⟩
  · rw [hended, ← hfiles]
    exact ToolRun.outcome_eq_ok_iff_of_starting hrun
  · rw [hended, ← hfiles]
    exact ToolRun.outcome_eq_error_iff_of_starting hrun
  · rw [hended, Session.files_afterRun, hrun, Runner.starting, hfiles, hstart]
  · rw [hended, Session.files_afterRun, hrun, Runner.starting, hfiles, hstart]

end DemoBuild
