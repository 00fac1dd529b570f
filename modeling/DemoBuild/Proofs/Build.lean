import DemoBuild.Build
import DemoBuild.Proofs.Generate
import DemoBuild.Proofs.Shader.Validation
import DemoBuild.Proofs.Toolchain.Compile

/-!
# The stages of a build

A build generates sources, validates the shader if a validator is configured, and makes the
executable. Each stage starts where the one before it has succeeded, the first failure is that of
the build, and nothing fails behind the last stage.

## Main definitions

* `BuildEnds`: how a build ends, given how its stages end.

## Main results

* `start_finish`: what follows the stages does not fail if the path of the executable is known;
* `exists_executable_of_compile`: it is known if the executable has been made;
* `buildEnds_build`: the stages follow each other;
* `build_gates_stages`: what a build runs, and how it ends.
-/

namespace DemoBuild

open DemoBuild.Action

variable {context : Context} {runner : Runner} {s : Shader} {c : Compilation}

/-! ## Behind the last stage -/

/-- The size of a file is looked up, and it is logged why if there is none. -/
theorem start_sizeOrLog (path : Path) (begun : Session) :
    ∃ entries, (sizeOrLog path).start begun =
      (.ok (begun.files.size path).toOption, begun.logged entries) := by
  rw [sizeOrLog, start_bind_of_ok (start_files begun)]
  cases begun.files.size path with
  | ok size => exact ⟨[], by rw [Session.logged_nil]; rfl⟩
  | error reason => exact ⟨_, rfl⟩

/-- What a build has made is logged. -/
theorem start_logReport (executable : Path) (report : BuildReport) (begun : Session) :
    ∃ entries, (logReport executable report).start begun = (.ok (), begun.logged entries) := by
  rw [logReport, start_bind_of_ok (start_log _ _ begun)]
  cases report.executableSize with
  | none => exact ⟨_, by rw [start_log, Session.logged_logged]⟩
  | some size => exact ⟨_, by rw [start_log, Session.logged_logged]⟩

/-- What follows the stages of a build. -/
def finish (context : Context) : Action BuildReport := do
  let executable ← context.executable
  let report : BuildReport := ⟨← sizeOrLog executable⟩
  logReport executable report
  return report

/-- What follows the stages reports what has been made and only logs. -/
theorem start_finish {executable : Path} (hexecutable : context.executable = .ok executable)
    (begun : Session) :
    ∃ entries, (finish context).start begun =
      (.ok ⟨(begun.files.size executable).toOption⟩, begun.logged entries) := by
  obtain ⟨sizing, hsize⟩ := start_sizeOrLog executable begun
  obtain ⟨reporting, hreport⟩ := start_logReport executable
    ⟨(begun.files.size executable).toOption⟩ (begun.logged sizing)
  refine ⟨sizing ++ reporting, ?_⟩
  rw [finish, start_bind_liftM_of_eq_ok hexecutable, start_bind_of_ok hsize,
    start_bind_of_ok hreport, start_pure, Session.logged_logged]

/-- The path of an executable that has been made is known: the plan has needed it. -/
theorem exists_executable_of_compile {begun : Session}
    (h : ((compile context runner c).start begun).1 = .ok ()) :
    ∃ executable, context.executable = .ok executable := by
  rw [compile, start_bind, start_liftM] at h
  cases hplan : plan context c with
  | error e =>
    -- a plan that fails is not carried out
    rw [hplan] at h
    cases h
  | ok steps =>
    obtain ⟨_, _, _, -, -, -, -, hexecutable⟩ := exists_of_plan_eq_ok hplan
    exact hexecutable

/-! ## The stages -/

/-- The log entry for a build that begins. -/
def beginning (mode : BuildMode) : LogEntry :=
  ⟨.info, "Building demo in " ++ mode.name ++ " mode"⟩

/-- The log entry for a build without a validator. -/
def skipping : LogEntry :=
  ⟨.info, "No shader validator configured, skipping validation"⟩

/-- The validation of a build, if a validator is configured. -/
theorem start_validateIfConfigured (begun : Session) :
    (validateIfConfigured context runner s).start begun =
      if context.config.contains "tools:glslangValidator" then
        (validate context runner s).start begun
      else (.ok (), begun.logged [skipping]) := by
  have hkey : "tools:" ++ Validation.tool = "tools:glslangValidator" := rfl
  rw [validateIfConfigured, hkey]
  split <;> rfl

/-- The validation of a build runs the validator only. -/
theorem runsOnly_validateIfConfigured (context : Context) (runner : Runner) (s : Shader) :
    RunsOnly (·.tool = Validation.tool) (validateIfConfigured context runner s) := by
  rw [validateIfConfigured]
  split
  · exact runsOnly_validate context runner s
  · exact .log _ _

/-- How a build ends, given how its stages end: with the failure of the first stage that fails,
where that stage has ended, or with what has been made, where only something has been logged. -/
inductive BuildEnds (context : Context) (generated : Except Error (List Path) × Session)
    (validated compiled : Except Error Unit × Session) : Except Error BuildReport × Session → Prop
  /-- The sources cannot be generated. -/
  | ungenerated {e : Error} (generation : generated.1 = .error e) :
    BuildEnds context generated validated compiled (.error e, generated.2)
  /-- The shader is not valid. -/
  | invalid {sources : List Path} {e : Error} (generation : generated.1 = .ok sources)
    (validation : validated.1 = .error e) :
    BuildEnds context generated validated compiled (.error e, validated.2)
  /-- The executable cannot be made. -/
  | unmade {sources : List Path} {e : Error} (generation : generated.1 = .ok sources)
    (validation : validated.1 = .ok ()) (compilation : compiled.1 = .error e) :
    BuildEnds context generated validated compiled (.error e, compiled.2)
  /-- All stages have succeeded. -/
  | made {sources : List Path} {executable : Path} (entries : List LogEntry)
    (generation : generated.1 = .ok sources) (validation : validated.1 = .ok ())
    (compilation : compiled.1 = .ok ()) (known : context.executable = .ok executable) :
    BuildEnds context generated validated compiled
      (.ok ⟨(compiled.2.files.size executable).toOption⟩, compiled.2.logged entries)

/-- A build succeeds if all of its stages do. -/
theorem BuildEnds.exists_eq_ok_iff {generated : Except Error (List Path) × Session}
    {validated compiled : Except Error Unit × Session} {built : Except Error BuildReport × Session}
    (h : BuildEnds context generated validated compiled built) :
    (∃ report, built.1 = .ok report) ↔
      (∃ sources, generated.1 = .ok sources) ∧ validated.1 = .ok () ∧ compiled.1 = .ok () := by
  cases h with
  | ungenerated generation => simp [generation]
  | invalid generation validation => simp [validation]
  | unmade generation validation compilation => simp [compilation]
  | made entries generation validation compilation => simp [generation, validation, compilation]

/-- A build is its stages and what follows them. -/
theorem start_build (begun : Session) :
    (build context runner s c).start begun =
      (generateSources context s c >>= fun _ => validateIfConfigured context runner s >>= fun _ =>
        compile context runner c >>= fun _ => finish context).start
          (begun.logged [beginning context.mode]) :=
  start_bind_of_ok (start_log _ _ begun)

/-- The stages of a build follow each other. -/
theorem buildEnds_build (begun : Session) :
    let generated := (generateSources context s c).start (begun.logged [beginning context.mode])
    let validated := (validateIfConfigured context runner s).start generated.2
    let compiled := (compile context runner c).start validated.2
    BuildEnds context generated validated compiled ((build context runner s c).start begun) := by
  intro generated validated compiled
  rw [start_build]
  -- stage by stage: a failure ends the build, a success leads to the next stage
  cases hgenerated : generated.1 with
  | error e =>
    rw [start_bind_of_fst_eq_error hgenerated]
    exact .ungenerated hgenerated
  | ok sources =>
    rw [start_bind_of_fst_eq_ok hgenerated]
    cases hvalidated : validated.1 with
    | error e =>
      rw [start_bind_of_fst_eq_error hvalidated]
      exact .invalid hgenerated hvalidated
    | ok u =>
      rw [start_bind_of_fst_eq_ok hvalidated]
      cases hcompiled : compiled.1 with
      | error e =>
        rw [start_bind_of_fst_eq_error hcompiled]
        exact .unmade hgenerated hvalidated hcompiled
      | ok u =>
        rw [start_bind_of_fst_eq_ok hcompiled]
        -- the link step has needed the path that is looked up here
        obtain ⟨executable, hexecutable⟩ := exists_executable_of_compile hcompiled
        obtain ⟨entries, hfinish⟩ := start_finish hexecutable compiled.2
        rw [hfinish]
        exact .made entries hgenerated hvalidated hcompiled hexecutable

/-- Each stage starts where the one before it has succeeded: the generation, which runs no tools;
the validation, which runs the validator only, if it is configured; and the making of the
executable. The first failure is that of the build. If there is none the build succeeds, whether
there is a file whose size it can report or not. -/
theorem build_gates_stages (context : Context) (runner : Runner) (s : Shader) (c : Compilation)
    (begun : Session) :
    let generated := (generateSources context s c).start (begun.logged [beginning context.mode])
    let validated := (validateIfConfigured context runner s).start generated.2
    let compiled := (compile context runner c).start validated.2
    let built := (build context runner s c).start begun
    BuildEnds context generated validated compiled built ∧
      generated.2.runs = begun.runs ∧
      validated = (if context.config.contains "tools:glslangValidator" then
        (validate context runner s).start generated.2
        else (.ok (), generated.2.logged [skipping])) ∧
      (∃ checks, validated.2.runs = begun.runs ++ checks ∧
        ∀ run ∈ checks, run.invocation.tool = "glslangValidator") ∧
      (∃ made, compiled.2.runs = validated.2.runs ++ made ∧
        ∀ run ∈ made, run.invocation.tool ∈ ["nasm", "cl", "link", "crinkler"]) ∧
      ((∃ report, built.1 = .ok report) ↔
        (∃ sources, generated.1 = .ok sources) ∧ validated.1 = .ok () ∧ compiled.1 = .ok ()) := by
  intro generated validated compiled built
  have hends : BuildEnds context generated validated compiled built := buildEnds_build begun
  have hgenerated : generated.2.runs = begun.runs :=
    (runsNothing_generateSources context s c).runs_eq _
  obtain ⟨checks, hchecks, hvalidator⟩ :=
    runsOnly_validateIfConfigured context runner s generated.2
  obtain ⟨made, hmade, htools⟩ := runsOnly_compile context runner c validated.2
  have hlink (mode : BuildMode) :
      ["nasm", "cl", Plan.linkTool mode] ⊆ ["nasm", "cl", "link", "crinkler"] := by
    cases mode <;> simp [Plan.linkTool]
  refine ⟨hends, hgenerated, start_validateIfConfigured generated.2,
    ⟨checks, hgenerated ▸ hchecks, hvalidator⟩, ⟨made, hmade, ?_⟩, hends.exists_eq_ok_iff⟩
  intro run hrun
  exact hlink _ (htools run hrun)

end DemoBuild
