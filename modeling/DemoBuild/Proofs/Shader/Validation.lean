import DemoBuild.Proofs.Files.System
import DemoBuild.Proofs.Session
import DemoBuild.Proofs.Shader.StageFile

/-!
# The validation of all stages

The stages of a shader are validated one after the other, whatever comes of them, and all failures
are reported. The validator finds the assembled source of the stage in the file that it is shown.

## Main definitions

* `Trial`: what came of the validation of a stage;
* `Attempted`: how a stage is validated;
* `Sweep`: how stages are validated one after the other;
* `Validates`: what the validation of a shader does.

## Main results

* `attempted_attempt` and `sweep_mapM_attempt`: stages are validated that way;
* `Sweep.preserves` and `Sweep.read`: what the files hold at the end;
* `runsOnly_validate`: the tools that run;
* `validate_sweeps_all`: the validation of a shader.
-/

namespace DemoBuild

namespace Validation

/-- What came of the validation of a stage. -/
structure Trial where
  /-- The pass and the stage. -/
  target : Nat × Stage
  /-- The files as they were when it began. -/
  found : FileSystem
  /-- The run of the validator, if it came to one. -/
  run? : Option ToolRun
  /-- How the validation ended. -/
  outcome : Except Error Unit

/-- The log entry for a stage that is validated. -/
def announcement (build : Path) (target : Nat × Stage) : LogEntry :=
  ⟨.info, "Validating pass #" ++ Number.natText target.1 ++ " " ++ target.2.extension ++
    " shader: " ++ (stageFile build target.1 target.2).text⟩

/-- The log entry for a stage whose validation fails. -/
def rejection (target : Nat × Stage) (e : Error) : LogEntry :=
  ⟨.error, "pass #" ++ Number.natText target.1 ++ " " ++ target.2.name ++ " shader: " ++ e.message⟩

namespace Trial

/-- The file for the stage. -/
def file (trial : Trial) (build : Path) : Path :=
  stageFile build trial.target.1 trial.target.2

/-- The source of the stage, as it is assembled. -/
def source (trial : Trial) (s : Shader) : Except Error String :=
  s.assemble (.stage trial.target.2 trial.target.1)

/-- The failure of the validation, if it failed. -/
def failure? (trial : Trial) : Option Error :=
  match trial.outcome with
  | .ok () => none
  | .error e => some e

/-- What is logged. -/
def entries (trial : Trial) (build : Path) : List LogEntry :=
  announcement build trial.target :: (trial.failure?.map (rejection trial.target)).toList

end Trial

/-- The failures of validations. -/
def failures (trials : List Trial) : List Error :=
  trials.filterMap (·.failure?)

/-- What is logged at last about failures. -/
def conclusion (failures : List Error) : List LogEntry :=
  if failures.isEmpty then [] else [⟨.error, "Validation errors. Stopping."⟩]

/-- What the validator is told for a stage. -/
def showing (program build : Path) (target : Nat × Stage) : Invocation :=
  { tool, program, args := [(stageFile build target.1 target.2).text] }

/-- How a stage is validated after some runs of tools: what comes of it, and which files it
leaves. -/
inductive Attempted (runner : Runner) (program build : Path) (s : Shader) (earlier : List ToolRun) :
    Trial → FileSystem → Prop
  /-- The source cannot be assembled. -/
  | unassembled {target : Nat × Stage} {found : FileSystem} {e : Error}
    (source : s.assemble (.stage target.2 target.1) = .error e) :
    Attempted runner program build s earlier ⟨target, found, none, .error e⟩ found
  /-- The source cannot be written. -/
  | unwritten {target : Nat × Stage} {found : FileSystem} {text : String} {reason : FileError}
    (source : s.assemble (.stage target.2 target.1) = .ok text)
    (refused : found.write (stageFile build target.1 target.2) text = .error reason) :
    Attempted runner program build s earlier
      ⟨target, found, none, .error (.file (stageFile build target.1 target.2) reason)⟩ found
  /-- The validator runs on the file that has been written, and answers as the runner does after the
  runs before it. -/
  | run {target : Nat × Stage} {found : FileSystem} {text : String} {run : ToolRun}
    (source : s.assemble (.stage target.2 target.1) = .ok text)
    (written : found.write (stageFile build target.1 target.2) text = .ok run.files)
    (invocation : run.invocation = showing program build target)
    (behaviour : run.result = runner earlier run.files run.invocation) :
    Attempted runner program build s earlier ⟨target, found, some run, run.outcome⟩
      run.result.files

/-- How stages are validated one after the other, from the runs and the files at first to the files
at last: each follows the runs and begins with the files that those before it have left. -/
inductive Sweep (runner : Runner) (program build : Path) (s : Shader) :
    List ToolRun → FileSystem → List Trial → FileSystem → Prop
  /-- No stages are left. -/
  | done (earlier : List ToolRun) (fs : FileSystem) : Sweep runner program build s earlier fs [] fs
  /-- A stage is validated, and those behind it follow whatever came of it. -/
  | next {earlier : List ToolRun} {trial : Trial} {trials : List Trial} {between after : FileSystem}
    (attempted : Attempted runner program build s earlier trial between)
    (rest : Sweep runner program build s (earlier ++ trial.run?.toList) between trials after) :
    Sweep runner program build s earlier trial.found (trial :: trials) after

variable {runner : Runner} {program build : Path} {s : Shader} {earlier : List ToolRun}

/-! ## The program validates that way -/

/-- The validation of a stage. -/
theorem start_validateStage (target : Nat × Stage) (begun : Session) :
    (validateStage runner program build s target.1 target.2).start begun =
      let announced := begun.logged [announcement build target]
      match s.assemble (.stage target.2 target.1) with
      | .error e => (.error e, announced)
      | .ok text =>
        match begun.files.write (stageFile build target.1 target.2) text with
        | .error reason => (.error (.file (stageFile build target.1 target.2) reason), announced)
        | .ok files =>
          let run := runner.runIn (showing program build target) { announced with files }
          (run.outcome, { announced with files }.afterRun run) := by
  rw [validateStage, Action.start_bind_of_ok (Action.start_log _ _ begun), Action.start_bind,
    Action.start_liftM]
  cases s.assemble (.stage target.2 target.1) with
  | error e => rfl
  | ok text =>
    dsimp only
    cases hwrite : begun.files.write (stageFile build target.1 target.2) text with
    | error reason => exact Action.start_bind_of_error (Action.start_write_of_error hwrite)
    | ok files =>
      have hannounced : (begun.logged [announcement build target]).files.write
          (stageFile build target.1 target.2) text = .ok files := hwrite
      exact (Action.start_bind_of_ok (Action.start_write_of_ok hannounced)).trans
        (Action.start_run runner _ _)

/-- A stage is validated. -/
theorem attempted_validateStage (target : Nat × Stage) (begun : Session) :
    ∃ trial : Trial, ∃ ended : Session, trial.target = target ∧ trial.found = begun.files ∧
      (validateStage runner program build s target.1 target.2).start begun =
        (trial.outcome, ended) ∧
      Attempted runner program build s begun.runs trial ended.files ∧
      ended.log = begun.log ++ [announcement build target] ∧
      ended.runs = begun.runs ++ trial.run?.toList := by
  rw [start_validateStage]
  dsimp only
  cases hsource : s.assemble (.stage target.2 target.1) with
  | error e =>
    exact ⟨⟨target, begun.files, none, .error e⟩, begun.logged [announcement build target], rfl,
      rfl, rfl, .unassembled hsource, rfl, by simp⟩
  | ok text =>
    dsimp only
    cases hwrite : begun.files.write (stageFile build target.1 target.2) text with
    | error reason =>
      exact ⟨⟨target, begun.files, none, .error (.file (stageFile build target.1 target.2) reason)⟩,
        begun.logged [announcement build target], rfl, rfl, rfl, .unwritten hsource hwrite, rfl,
        by simp⟩
    | ok files =>
      dsimp only
      generalize hrun : runner.runIn (showing program build target)
        { begun.logged [announcement build target] with files } = run
      -- the validator finds the files as they are after the write
      have hfiles : run.files = files := by rw [← hrun]; rfl
      refine ⟨⟨target, begun.files, some run, run.outcome⟩, _, rfl, rfl, rfl,
        .run hsource (hfiles ▸ hwrite) ?_ ?_, rfl, rfl⟩
      · rw [← hrun]
        rfl
      · rw [← hrun]
        rfl

/-- A failure of the validation of a stage is logged and handed on as what came of it. -/
theorem start_attempt (target : Nat × Stage) (begun : Session) :
    (attempt runner program build s target).start begun =
      match (validateStage runner program build s target.1 target.2).start begun with
      | (.ok (), ended) => (.ok none, ended)
      | (.error e, ended) => (.ok (some e), ended.logged [rejection target e]) := by
  rw [attempt, Action.start_bind, Action.start_tryCatch, Action.start_bind]
  cases (validateStage runner program build s target.1 target.2).start begun with
  | mk result ended => cases result <;> rfl

/-- An attempt validates its stage and never fails. -/
theorem attempted_attempt (target : Nat × Stage) (begun : Session) :
    ∃ trial : Trial, ∃ ended : Session, trial.target = target ∧ trial.found = begun.files ∧
      (attempt runner program build s target).start begun = (.ok trial.failure?, ended) ∧
      Attempted runner program build s begun.runs trial ended.files ∧
      ended.log = begun.log ++ trial.entries build ∧
      ended.runs = begun.runs ++ trial.run?.toList := by
  obtain ⟨⟨_, _, run?, outcome⟩, ended, rfl, rfl, hstart, hattempted, hlog, hruns⟩ :=
    attempted_validateStage target begun
  rw [start_attempt, hstart]
  cases outcome with
  | ok u => exact ⟨_, ended, rfl, rfl, rfl, hattempted, hlog, hruns⟩
  | error e =>
    refine ⟨_, ended.logged [rejection _ e], rfl, rfl, rfl, hattempted, ?_, hruns⟩
    rw [Session.log_logged, hlog, List.append_assoc]
    rfl

/-- Stages are validated one after the other, and the sweep never fails. -/
theorem sweep_mapM_attempt (targets : List (Nat × Stage)) (begun : Session) :
    ∃ trials : List Trial, ∃ ended : Session, trials.map (·.target) = targets ∧
      (targets.mapM (attempt runner program build s)).start begun =
        (.ok (trials.map (·.failure?)), ended) ∧
      Sweep runner program build s begun.runs begun.files trials ended.files ∧
      ended.log = begun.log ++ trials.flatMap (·.entries build) ∧
      ended.runs = begun.runs ++ trials.filterMap (·.run?) := by
  -- from any session: the stages behind the first one begin where that has ended
  induction targets generalizing begun with
  | nil => exact ⟨[], begun, rfl, rfl, .done _ _, by simp, by simp⟩
  | cons target targets ih =>
    obtain ⟨trial, between, rfl, hfound, hstart, hattempted, hlog, hruns⟩ :=
      attempted_attempt target begun
    obtain ⟨trials, ended, rfl, hrest, hsweep, hlogRest, hrunsRest⟩ := ih between
    rw [hruns] at hsweep
    refine ⟨trial :: trials, ended, rfl, ?_, hfound ▸ .next hattempted hsweep, ?_, ?_⟩
    · rw [List.mapM_cons, Action.start_bind_of_ok hstart, Action.start_bind_of_ok hrest]
      rfl
    · rw [hlogRest, hlog, List.flatMap_cons, List.append_assoc]
    · rw [hrunsRest, hruns, List.append_assoc]
      cases hrun : trial.run? <;> simp [hrun]

/-! ## What follows -/

namespace Attempted

variable {trial : Trial} {left : FileSystem}

/-- What is shown to the validator is the source of the stage, in the file of the stage. -/
theorem shown_of_run (h : Attempted runner program build s earlier trial left) {run : ToolRun}
    (hrun : trial.run? = some run) :
    run.invocation = showing program build trial.target ∧ trial.outcome = run.outcome ∧
      ∃ text, trial.source s = .ok text ∧ run.files.read (trial.file build) = .ok text := by
  cases h with
  | unassembled source => cases hrun
  | unwritten source refused => cases hrun
  | run source written invocation behaviour =>
    obtain rfl := Option.some.inj hrun
    exact ⟨invocation, rfl, _, source, FileSystem.read_of_write written⟩

/-- The validator runs if the source can be assembled and written. -/
theorem exists_run_iff (h : Attempted runner program build s earlier trial left) :
    (∃ run, trial.run? = some run) ↔ ∃ text files, trial.source s = .ok text ∧
      trial.found.write (trial.file build) text = .ok files := by
  cases h with
  | unassembled source => simp [Trial.source, source]
  | unwritten source refused => simp [Trial.source, Trial.file, source, refused]
  | run source written invocation behaviour =>
    exact ⟨fun _ => ⟨_, _, source, written⟩, fun _ => ⟨_, rfl⟩⟩

/-- No failure is that the stage has no code: the stage has code, and what a runner reports are
failures of the tool. -/
theorem outcome_ne_missingStageCode (h : Attempted runner program build s earlier trial left)
    (hcode : HasCode s trial.target) (pass : Nat) (stage : Stage) :
    trial.outcome ≠ .error (.missingStageCode pass stage) := by
  cases h with
  | unassembled source =>
    obtain ⟨typeName, rfl⟩ := exists_duplicate_of_assemble_eq_error hcode source
    simp
  | unwritten source refused => simp
  | @run _ _ _ run source written invocation behaviour =>
    rw [ToolRun.outcome]
    cases run.result.failure? with
    | none => simp
    | some failure => cases failure <;> simp [ToolFailure.error]

/-- Only the file of the stage changes. -/
theorem preserves (hrunner : runner.LeavesFiles)
    (h : Attempted runner program build s earlier trial left) :
    FileSystem.Preserves [(trial.file build).location] trial.found left := by
  cases h with
  | unassembled source => exact .refl _ _
  | unwritten source refused => exact .refl _ _
  | run source written invocation behaviour =>
    rw [behaviour, hrunner]
    exact FileSystem.preserves_write written

/-- The file of the stage holds its source afterwards. -/
theorem read (hrunner : runner.LeavesFiles)
    (h : Attempted runner program build s earlier trial left) {run : ToolRun}
    (hrun : trial.run? = some run) {text : String} (hsource : trial.source s = .ok text) :
    left.read (trial.file build) = .ok text := by
  cases h with
  | unassembled source => cases hrun
  | unwritten source refused => cases hrun
  | run source written invocation behaviour =>
    obtain rfl := Except.ok.inj (source.symm.trans hsource)
    rw [behaviour, hrunner]
    exact FileSystem.read_of_write written

end Attempted

namespace Sweep

variable {trials : List Trial} {before after : FileSystem}

/-- Every stage is validated in the same way. -/
theorem attempted_of_mem (h : Sweep runner program build s earlier before trials after)
    {trial : Trial} (htrial : trial ∈ trials) :
    ∃ earlier left, Attempted runner program build s earlier trial left := by
  induction h with
  | done => cases htrial
  | next attempted _ ih =>
    rcases List.mem_cons.mp htrial with rfl | hmem
    · exact ⟨_, _, attempted⟩
    · exact ih hmem

/-- Only the files of the stages change. -/
theorem preserves (hrunner : runner.LeavesFiles)
    (h : Sweep runner program build s earlier before trials after) :
    FileSystem.Preserves (trials.map fun trial => (trial.file build).location) before after := by
  induction h with
  | done => exact .refl _ _
  | next attempted _ ih =>
    -- both changes are among those of the whole sweep
    have hfirst := attempted.preserves hrunner
    exact (hfirst.mono (by simp)).trans (ih.mono (by simp))

/-- The files of the stages hold their sources at the end: no stage has the file of another. -/
theorem read (hrunner : runner.LeavesFiles)
    (h : Sweep runner program build s earlier before trials after)
    (hnodup : (trials.map (·.target)).Nodup)
    {trial : Trial} (htrial : trial ∈ trials) {run : ToolRun} (hrun : trial.run? = some run)
    {text : String} (hsource : trial.source s = .ok text) :
    after.read (trial.file build) = .ok text := by
  induction h with
  | done => cases htrial
  | @next _ first rest _ _ attempted hrest ih =>
    obtain ⟨hfirst, hdistinct⟩ := List.nodup_cons.mp hnodup
    rcases List.mem_cons.mp htrial with rfl | hmem
    · -- the first stage: what it has written outlives the stages behind it
      refine (hrest.preserves hrunner).read ?_ (attempted.read hrunner hrun hsource)
      intro hlocation
      obtain ⟨other, hother, heq⟩ := List.mem_map.mp hlocation
      have htarget : other.target = trial.target := stageFile_location_injective build heq
      exact hfirst (List.mem_map.mpr ⟨other, hother, htarget⟩)
    · exact ih hdistinct hmem

end Sweep

/-- What the validation of a shader does that ends with a result: all stages are validated, in
order, and all failures are reported. -/
structure Validates (runner : Runner) (program build : Path) (s : Shader) (begun : Session)
    (trials : List Trial) (result : Except Error Unit) (ended : Session) : Prop where
  /-- All stages are validated, whatever comes of any of them. -/
  targets : trials.map (·.target) = attempts s
  /-- Each follows the runs and begins with the files that those before it have left; at first the
  build directory is made. -/
  sweep : Sweep runner program build s begun.runs (begun.files.makeDirectories build).1 trials
    ended.files
  /-- Every validation is logged, and at last whether there are failures. -/
  log : ended.log = begun.log ++ trials.flatMap (·.entries build) ++ conclusion (failures trials)
  /-- The tool runs are those of the validations. -/
  runs : ended.runs = begun.runs ++ trials.filterMap (·.run?)
  /-- The validator runs for the stages whose source can be assembled and written. -/
  exists_run_iff : ∀ trial ∈ trials, (∃ run, trial.run? = some run) ↔
    ∃ text files, trial.source s = .ok text ∧
      trial.found.write (trial.file build) text = .ok files
  /-- A run of the validator decides about its stage. It is shown the file of the stage, which holds
  the source of the stage at that moment. -/
  shown : ∀ trial ∈ trials, ∀ run, trial.run? = some run →
    run.invocation = showing program build trial.target ∧ trial.outcome = run.outcome ∧
      ∃ text, trial.source s = .ok text ∧ run.files.read (trial.file build) = .ok text
  /-- It succeeds if every stage is valid. -/
  result_eq_ok_iff : result = .ok () ↔ ∀ trial ∈ trials, trial.outcome = .ok ()
  /-- Otherwise all failures are reported, in order. -/
  result_eq_error : ∀ e, result = .error e → e = .validation (failures trials)
  /-- No stage without code is validated. A run of the validator cannot fail that way either: what a
  runner reports are failures of the tool. -/
  outcome_ne_missingStageCode : ∀ trial ∈ trials, ∀ pass stage,
    trial.outcome ≠ .error (.missingStageCode pass stage)
  /-- With a runner that leaves the files as it finds them, the files of the stages hold their
  sources at the end. -/
  read : runner.LeavesFiles → ∀ trial ∈ trials, ∀ run, trial.run? = some run →
    ∃ text, trial.source s = .ok text ∧ ended.files.read (trial.file build) = .ok text
  /-- With such a runner the generated sources stay as they are. -/
  sources : runner.LeavesFiles → ∀ r d m, ∀ name ∈ sourceNames r d m,
    (∀ contents, ended.files.lookup (build.join name).location = some (.file contents) ↔
      begun.files.lookup (build.join name).location = some (.file contents)) ∧
    ∀ text, begun.files.read (build.join name) = .ok text →
      ended.files.read (build.join name) = .ok text

/-- There are no failures if all validations succeed. -/
theorem failures_eq_nil_iff {trials : List Trial} :
    failures trials = [] ↔ ∀ trial ∈ trials, trial.outcome = .ok () := by
  have hfailure (trial : Trial) : trial.failure? = none ↔ trial.outcome = .ok () := by
    rw [Trial.failure?]
    cases trial.outcome <;> simp
  simp only [failures, List.filterMap_eq_nil_iff, hfailure]

end Validation

open Validation

/-- A validation runs the validator only, whether it succeeds or fails. -/
theorem runsOnly_validate (context : Context) (runner : Runner) (s : Shader) :
    Action.RunsOnly (·.tool = tool) (validate context runner s) := by
  have hsweep (program build : Path) :
      Action.RunsOnly (·.tool = tool) ((attempts s).mapM (attempt runner program build s)) := by
    intro begun
    obtain ⟨trials, ended, -, hstart, hsweep, -, hruns⟩ :=
      @sweep_mapM_attempt runner program build s (attempts s) begun
    rw [hstart]
    -- every run of the sweep is that of a stage
    refine ⟨_, hruns, fun run hrun => ?_⟩
    obtain ⟨trial, htrial, hrun⟩ := List.mem_filterMap.mp hrun
    obtain ⟨_, left, hattempted⟩ := hsweep.attempted_of_mem htrial
    rw [(hattempted.shown_of_run hrun).1]
    rfl
  refine .bind (.liftM _) fun _ => .bind (.liftM _) fun program => .bind (.liftM _) fun build =>
    .bind (.makeDirectories _) fun _ => .bind (hsweep program build) fun results => ?_
  dsimp only
  split
  · exact .pure _
  · exact .bind (.log _ _) fun _ => .throw _

/-- What has a value is not missing. -/
theorem require_of_path_eq_ok {c : Config} {key : String} {p : Path} (h : c.path key = .ok p) :
    c.require [key] = .ok () := by
  obtain ⟨text, htext, -⟩ := bind_eq_ok_iff.mp h
  obtain ⟨text?, htext?, hvalue⟩ := bind_eq_ok_iff.mp htext
  have hcontains : c.contains key = true := by
    rw [Config.contains]
    rw [Config.text?] at htext?
    cases hget : c.get? key with
    | some value => rfl
    | none =>
      rw [hget] at htext?
      cases htext?
      cases hvalue
  simp [Config.require, hcontains]

variable {context : Context} {runner : Runner} {program build : Path} {s : Shader}

/-- The validation of a shader whose build directory can be made. -/
theorem start_validate {begun ended : Session} {trials : List Trial}
    (htool : context.tool tool = .ok program) (hbuild : context.buildDirectory = .ok build)
    (hmade : (begun.files.makeDirectories build).2 = none)
    (hsweep : ((attempts s).mapM (attempt runner program build s)).start
      { begun with files := (begun.files.makeDirectories build).1 } =
        (.ok (trials.map (·.failure?)), ended)) :
    (validate context runner s).start begun =
      (if (failures trials).isEmpty then .ok () else .error (.validation (failures trials)),
        ended.logged (conclusion (failures trials))) := by
  have hmake : (Action.makeDirectories build).start begun =
      (.ok (), { begun with files := (begun.files.makeDirectories build).1 }) := by
    rw [Action.start_makeDirectories, hmade]
    rfl
  have hfailures : (trials.map (·.failure?)).filterMap id = failures trials := by
    rw [List.filterMap_map]
    rfl
  rw [validate, Action.start_bind_liftM_of_eq_ok (require_of_path_eq_ok htool),
    Action.start_bind_liftM_of_eq_ok htool, Action.start_bind_liftM_of_eq_ok hbuild,
    Action.start_bind_of_ok hmake, Action.start_bind_of_ok hsweep, hfailures, conclusion]
  cases hempty : (failures trials).isEmpty with
  | true =>
    simp only [hempty, if_true, Session.logged_nil]
    rfl
  | false =>
    simp only [hempty, Bool.false_eq_true, if_false]
    rfl

/-- Whatever comes of the stages, all of them are validated: those with code that is not empty, pass
by pass, the vertex stage first, each in a file of its own that is no generated source. The
validator is shown every source that can be assembled and written, and all failures are reported. -/
theorem validate_sweeps_all (context : Context) (runner : Runner) (s : Shader) (begun : Session)
    (program build : Path) (htool : context.tool tool = .ok program)
    (hbuild : context.buildDirectory = .ok build)
    (hmade : (begun.files.makeDirectories build).2 = none) :
    let ended := (validate context runner s).start begun
    (∀ target, target ∈ attempts s ↔ HasCode s target) ∧
      (attempts s).Pairwise Precedes ∧
      (Function.Injective fun target : Nat × Stage =>
        (stageFile build target.1 target.2).location) ∧
      (∀ target : Nat × Stage, ∀ r d m, ∀ name ∈ sourceNames r d m,
        (stageFile build target.1 target.2).location ≠ (build.join name).location) ∧
      ∃ trials, Validates runner program build s begun trials ended.1 ended.2 := by
  intro ended
  refine ⟨fun target => mem_attempts_iff, pairwise_attempts s, stageFile_location_injective build,
    fun target r d m name hname => location_stageFile_ne build target hname, ?_⟩
  -- the sweep begins when the build directory has been made
  obtain ⟨trials, swept, htargets, hstart, hsweep, hlog, hruns⟩ :=
    @sweep_mapM_attempt runner program build s (attempts s)
      { begun with files := (begun.files.makeDirectories build).1 }
  have hended : ended = _ := start_validate htool hbuild hmade hstart
  have hcode {trial : Trial} (htrial : trial ∈ trials) : HasCode s trial.target :=
    mem_attempts_iff.mp (htargets ▸ List.mem_map_of_mem htrial)
  -- neither the directories nor the stages touch any other file
  have hpreserves (hrunner : runner.LeavesFiles) :=
    ((FileSystem.preserves_makeDirectories begun.files build).mono (List.nil_subset _)).trans
      (hsweep.preserves hrunner)
  refine ⟨trials, ?_⟩
  rw [hended]
  constructor
  case targets => exact htargets
  case sweep => exact hsweep
  case log => rw [Session.log_logged, hlog]
  case runs => exact hruns
  case exists_run_iff =>
    intro trial htrial
    obtain ⟨_, left, hattempted⟩ := hsweep.attempted_of_mem htrial
    exact hattempted.exists_run_iff
  case shown =>
    intro trial htrial run hrun
    obtain ⟨_, left, hattempted⟩ := hsweep.attempted_of_mem htrial
    exact hattempted.shown_of_run hrun
  case result_eq_ok_iff =>
    rw [← failures_eq_nil_iff]
    cases failures trials <;> simp
  case result_eq_error =>
    intro e he
    cases hfailures : failures trials with
    | nil => simp [hfailures] at he
    | cons first rest =>
      rw [hfailures] at he
      exact (Except.error.inj he).symm
  case outcome_ne_missingStageCode =>
    intro trial htrial
    obtain ⟨_, left, hattempted⟩ := hsweep.attempted_of_mem htrial
    exact hattempted.outcome_ne_missingStageCode (hcode htrial)
  case read =>
    intro hrunner trial htrial run hrun
    obtain ⟨_, left, hattempted⟩ := hsweep.attempted_of_mem htrial
    obtain ⟨-, -, text, hsource, -⟩ := hattempted.shown_of_run hrun
    exact ⟨text, hsource,
      hsweep.read hrunner (htargets ▸ nodup_attempts s) htrial hrun hsource⟩
  case sources =>
    intro hrunner r d m name hname
    have hlocation : (build.join name).location ∉
        trials.map fun trial => (trial.file build).location := by
      intro hmem
      obtain ⟨trial, -, heq⟩ := List.mem_map.mp hmem
      exact location_stageFile_ne build trial.target hname heq
    exact ⟨fun contents => (hpreserves hrunner).file hlocation,
      fun text => (hpreserves hrunner).read hlocation⟩

/-- The failure of one run of a tool is all that is reported. Failures cannot be compared in
general, but this can be decided. -/
def reportsOnly (name : String) (code : Int) : Except Error Unit → Bool
  | .error (.validation [.tool reported (.code cause)]) => reported == name && cause == code
  | _ => false

theorem eq_of_reportsOnly {name : String} {code : Int} {result : Except Error Unit}
    (h : reportsOnly name code result = true) :
    result = .error (.validation [.tool name (.code code)]) := by
  unfold reportsOnly at h
  split at h
  next reported cause =>
    obtain ⟨rfl, rfl⟩ : reported = name ∧ cause = code := by simpa using h
    rfl
  next => cases h

/-- Three stages of three passes, and a validator that refuses the second source that it is shown:
its refusal is all that is reported. -/
theorem validate_sweeps_all_refused :
    let context : Context :=
      { config := ⟨.ofList [("paths:build", .text "out/build"),
          ("tools:glslangValidator", .text "glslang")]⟩
        mode := .debug }
    let runner : Runner := fun earlier files _ =>
      ⟨files, if earlier.length = 1 then some (.ended (.code 2)) else none⟩
    let s : Shader :=
      { passes := [{ vertexCode := some "v", fragmentCode := some "" }, {},
          { vertexCode := some "w", fragmentCode := some "f" }] }
    let begun : Session := { files := .empty }
    context.tool tool = .ok ⟨"glslang"⟩ ∧ context.buildDirectory = .ok ⟨"out/build"⟩ ∧
      (begun.files.makeDirectories ⟨"out/build"⟩).2 = none ∧ runner.LeavesFiles ∧
      ((validate context runner s).start begun).1 =
        .error (.validation [.tool "glslangValidator" (.code 2)]) ∧
      ∃ trials, trials.map (·.target) = [(0, .vertex), (2, .vertex), (2, .fragment)] ∧
        Validates runner ⟨"glslang"⟩ ⟨"out/build"⟩ s begun trials
          ((validate context runner s).start begun).1
          ((validate context runner s).start begun).2 := by
  intro context runner s begun
  have htool : context.tool tool = .ok ⟨"glslang"⟩ := rfl
  have hbuild : context.buildDirectory = .ok ⟨"out/build"⟩ := rfl
  have hmade : (begun.files.makeDirectories ⟨"out/build"⟩).2 = none := rfl
  have hrunner : runner.LeavesFiles := fun _ _ _ => rfl
  have hresult : reportsOnly "glslangValidator" 2 ((validate context runner s).start begun).1 := by
    decide +kernel
  obtain ⟨-, -, -, -, trials, h⟩ :=
    validate_sweeps_all context runner s begun ⟨"glslang"⟩ ⟨"out/build"⟩ htool hbuild hmade
  exact ⟨htool, hbuild, hmade, hrunner, eq_of_reportsOnly hresult, trials,
    h.targets.trans (by decide), h⟩

end DemoBuild
