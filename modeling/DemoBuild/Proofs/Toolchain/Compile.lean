import DemoBuild.Proofs.Session
import DemoBuild.Proofs.Toolchain.Plan
import DemoBuild.Toolchain.Compile

/-!
# Running a plan fails fast

No tool runs if the plan fails. Otherwise the steps of the plan run in order up to the first that
fails, with whose failure everything ends. A phase is announced in the log right before its first
step.

## Main definitions

* `Runner.Answers`: what the runner does when tools run one after the other;
* `Executes`: how a list of steps runs;
* `Phase.announcement`: the log entry for a phase.

## Main results

* `executes_runSteps`: steps run that way, with the answers of the runner;
* `Executes.eq_ok_iff` and `Executes.exists_of_eq_error`: how the steps end;
* `Executes.log_eq` and `Executes.exists_log_eq`: what is logged;
* `runsOnly_compile`: the tools that run;
* `compile_fails_fast`: the steps of a plan.
-/

namespace DemoBuild

/-- The log entry for a phase that begins. -/
def Phase.announcement (mode : BuildMode) (phase : Phase) : LogEntry :=
  ⟨.info, "Running " ++ phase.name ++ " phase (" ++ mode.name ++ " mode)"⟩

/-- The log entry for a phase in which a step has failed. -/
def Phase.abortion (phase : Phase) (e : Error) : LogEntry :=
  ⟨.error, phase.name ++ " phase aborted: " ++ e.message⟩

/-- What is logged before a step of a phase that follows a step of the phase `last`. -/
def announced (mode : BuildMode) (last : Option Phase) (phase : Phase) : List LogEntry :=
  if last = some phase then [] else [phase.announcement mode]

/-- What is logged before steps of some phases that follow a step of the phase `last`. -/
def announcements (mode : BuildMode) : Option Phase → List Phase → List LogEntry
  | _, [] => []
  | last, phase :: phases => announced mode last phase ++ announcements mode (some phase) phases

/-- The log when the last of some runs began; `log` if there are none. -/
def logBefore (log : List LogEntry) (ran : List ToolRun) : List LogEntry :=
  (ran.getLast?.map (·.log)).getD log

/-- The files that some runs leave; `files` if there are none. -/
def filesAfter (files : FileSystem) (ran : List ToolRun) : FileSystem :=
  (ran.getLast?.map (·.result.files)).getD files

/-- Runs behind another one start with the files that it leaves. -/
theorem filesAfter_cons (files : FileSystem) (run : ToolRun) (ran : List ToolRun) :
    filesAfter files (run :: ran) = filesAfter run.result.files ran := by
  rw [filesAfter, filesAfter, List.getLast?_cons]
  cases ran.getLast? <;> rfl

/-- What the runner does when some tools run one after the other, after the runs `earlier` and from
the files `files`: each run finds the files that those before it leave, and is answered after
them. -/
def Runner.Answers (runner : Runner) (earlier : List ToolRun) (files : FileSystem)
    (ran : List ToolRun) : Prop :=
  ∀ i run, ran[i]? = some run → run.files = filesAfter files (ran.take i) ∧
    run.result = runner (earlier ++ ran.take i) run.files run.invocation

/-- The runner answers a run in a session and the runs behind it. -/
theorem Runner.Answers.cons {runner : Runner} {invocation : Invocation} {s : Session}
    {ran : List ToolRun} (h : runner.Answers (s.runs ++ [runner.runIn invocation s])
      (runner.runIn invocation s).result.files ran) :
    runner.Answers s.runs s.files (runner.runIn invocation s :: ran) := by
  intro i run hrun
  cases i with
  | zero =>
    obtain rfl : runner.runIn invocation s = run := by simpa using hrun
    exact ⟨rfl, by rw [List.take_zero, List.append_nil]; rfl⟩
  | succ i =>
    obtain ⟨hfound, hresult⟩ := h i run (by simpa using hrun)
    rw [List.take_succ_cons, filesAfter_cons]
    exact ⟨hfound, by rw [hresult, List.append_assoc, List.singleton_append]⟩

/-- A run behind others is the last one. -/
theorem logBefore_cons (log : List LogEntry) (run : ToolRun) (ran : List ToolRun) :
    logBefore log (run :: ran) = logBefore run.log ran := by
  rw [logBefore, logBefore, List.getLast?_cons]
  cases ran.getLast? <;> rfl

/-- A phase behind others is the last one. -/
theorem getLast?_cons_or (phase : Phase) (phases : List Phase) (last : Option Phase) :
    (phase :: phases).getLast?.or last = phases.getLast?.or (some phase) := by
  rw [List.getLast?_cons]
  cases phases.getLast? <;> rfl

/-- How steps run after a step of the phase `last`, with the log as it is before them: which tool
runs take place, how the steps end, and with which log. -/
inductive Executes (mode : BuildMode) : Option Phase → List LogEntry → List Step →
    List ToolRun → Except Error Unit → List LogEntry → Prop
  /-- There is nothing to run. -/
  | done (last : Option Phase) (log : List LogEntry) : Executes mode last log [] [] (.ok ()) log
  /-- A step fails, and those behind it do not run. -/
  | failed {last : Option Phase} {log : List LogEntry} {step : Step} {run : ToolRun} {e : Error}
    (steps : List Step) (invocation : run.invocation = step.invocation)
    (begins : run.log = log ++ announced mode last step.phase) (outcome : run.outcome = .error e) :
    Executes mode last log (step :: steps) [run] (.error e) (run.log ++ [step.phase.abortion e])
  /-- A step succeeds, and those behind it run. -/
  | passed {last : Option Phase} {log final : List LogEntry} {step : Step} {steps : List Step}
    {run : ToolRun} {ran : List ToolRun} {result : Except Error Unit}
    (invocation : run.invocation = step.invocation)
    (begins : run.log = log ++ announced mode last step.phase) (outcome : run.outcome = .ok ())
    (rest : Executes mode (some step.phase) run.log steps ran result final) :
    Executes mode last log (step :: steps) (run :: ran) result final

variable {context : Context} {runner : Runner} {mode : BuildMode}

/-- One step after another. -/
theorem start_runSteps_cons (last : Option Phase) (step : Step) (steps : List Step) (s : Session) :
    (runSteps context runner last (step :: steps)).start s =
      let begun := s.logged (announced context.mode last step.phase)
      let run := runner.runIn step.invocation begun
      match run.outcome with
      | .ok () => (runSteps context runner (some step.phase) steps).start (begun.afterRun run)
      | .error e => (.error e, (begun.afterRun run).logged [step.phase.abortion e]) := by
  -- the entry apart, both branches of the program are the same
  have hrun (begun : Session) :
      ((tryCatch (Action.run runner step.invocation) fun e => do
          Action.log .error (step.phase.name ++ " phase aborted: " ++ e.message)
          throw e) >>= fun _ => runSteps context runner (some step.phase) steps).start begun =
        match (runner.runIn step.invocation begun).outcome with
        | .ok () => (runSteps context runner (some step.phase) steps).start
            (begun.afterRun (runner.runIn step.invocation begun))
        | .error e => (.error e, (begun.afterRun (runner.runIn step.invocation begun)).logged
            [step.phase.abortion e]) := by
    rw [Action.start_bind, Action.start_tryCatch, Action.start_run]
    cases (runner.runIn step.invocation begun).outcome <;> rfl
  rw [runSteps, announced]
  by_cases hlast : last = some step.phase
  · rw [if_neg (not_not_intro hlast), if_pos hlast, Session.logged_nil]
    exact hrun s
  · rw [if_pos hlast, if_neg hlast, Action.start_bind_of_ok (Action.start_log _ _ s)]
    exact hrun _

/-- Steps run one after the other up to the first that fails, and the runner answers each. -/
theorem executes_runSteps (last : Option Phase) (steps : List Step) (s : Session) :
    ∃ ran, ((runSteps context runner last steps).start s).2.runs = s.runs ++ ran ∧
      runner.Answers s.runs s.files ran ∧
      Executes context.mode last s.log steps ran
        ((runSteps context runner last steps).start s).1
        ((runSteps context runner last steps).start s).2.log := by
  -- from any session: the steps behind the first one begin where its run has ended
  induction steps generalizing last s with
  | nil => exact ⟨[], by simp [runSteps], by simp [Runner.Answers], .done last s.log⟩
  | cons step steps ih =>
    rw [start_runSteps_cons]
    dsimp only
    generalize hbegun : s.logged (announced context.mode last step.phase) = begun
    have hlog : begun.log = s.log ++ announced context.mode last step.phase := by
      rw [← hbegun, Session.log_logged]
    have hruns : begun.runs = s.runs := by
      rw [← hbegun, Session.runs_logged]
    have hfiles : begun.files = s.files := by
      rw [← hbegun, Session.files_logged]
    rw [← hruns, ← hfiles]
    cases houtcome : (runner.runIn step.invocation begun).outcome with
    | error e =>
      exact ⟨_, rfl, .cons (by simp [Runner.Answers]), .failed steps rfl hlog houtcome⟩
    | ok u =>
      obtain ⟨ran, hran, hanswers, hrest⟩ := ih (some step.phase)
        (begun.afterRun (runner.runIn step.invocation begun))
      refine ⟨runner.runIn step.invocation begun :: ran, ?_, .cons hanswers,
        .passed rfl hlog houtcome hrest⟩
      rw [hran, Session.runs_afterRun, List.append_assoc, List.singleton_append]

namespace Executes

variable {last : Option Phase} {log final : List LogEntry} {steps : List Step}
  {ran : List ToolRun} {result : Except Error Unit}

/-! ## Which steps run -/

/-- The steps that run are the first ones. -/
theorem isPrefix (h : Executes mode last log steps ran result final) :
    ran.map (·.invocation) <+: steps.map (·.invocation) := by
  induction h with
  | done => exact List.prefix_rfl
  | failed steps invocation =>
    rw [List.map_cons, List.map_cons, invocation]
    exact (List.prefix_cons_inj _).mpr (List.nil_prefix)
  | passed invocation _ _ _ ih =>
    rw [List.map_cons, List.map_cons, invocation]
    exact (List.prefix_cons_inj _).mpr ih

/-- The steps succeed if all of them run and succeed. -/
theorem eq_ok_iff (h : Executes mode last log steps ran result final) :
    result = .ok () ↔ ran.length = steps.length ∧ ∀ run ∈ ran, run.outcome = .ok () := by
  induction h with
  | done => simp
  | failed steps _ _ outcome => simp [outcome]
  | passed _ _ outcome _ ih => simp [ih, outcome]

/-- If the steps fail, the last one that runs is the first that fails, and its failure is that of
the steps. -/
theorem exists_of_eq_error (h : Executes mode last log steps ran result final) {e : Error}
    (he : result = .error e) :
    ∃ before failing, ran = before ++ [failing] ∧ (∀ run ∈ before, run.outcome = .ok ()) ∧
      failing.outcome = .error e := by
  induction h with
  | done => cases he
  | @failed _ _ _ run _ _ _ _ outcome =>
    cases he
    exact ⟨[], run, rfl, by simp, outcome⟩
  | @passed _ _ _ _ _ run _ _ _ _ outcome _ ih =>
    obtain ⟨before, failing, rfl, hbefore, hfailing⟩ := ih he
    exact ⟨run :: before, failing, rfl, List.forall_mem_cons.mpr ⟨outcome, hbefore⟩, hfailing⟩

/-! ## What is logged -/

/-- Between two steps the phase of the second one is announced if it is another one. -/
theorem log_eq (h : Executes mode last log steps ran result final) {i : Nat} {step : Step}
    {run : ToolRun} (hstep : steps[i]? = some step) (hrun : ran[i]? = some run) :
    run.log = logBefore log (ran.take i) ++
      announced mode (((steps.take i).map (·.phase)).getLast?.or last) step.phase := by
  induction h generalizing i with
  | done => simp at hrun
  | @failed _ _ _ failing _ _ _ begins _ =>
    cases i with
    | zero =>
      obtain rfl : _ = step := by simpa using hstep
      obtain rfl : failing = run := by simpa using hrun
      simpa [logBefore] using begins
    | succ i => simp at hrun
  | @passed _ _ _ first _ passing _ _ _ begins _ _ ih =>
    cases i with
    | zero =>
      obtain rfl : first = step := by simpa using hstep
      obtain rfl : passing = run := by simpa using hrun
      simpa [logBefore] using begins
    | succ i =>
      rw [ih (by simpa using hstep) (by simpa using hrun), List.take_succ_cons,
        List.take_succ_cons, logBefore_cons, List.map_cons, getLast?_cons_or]

/-- What is logged at the end: the phases of the steps that run, and a failure. -/
theorem exists_log_eq (h : Executes mode last log steps ran result final) :
    ∃ rest, final = log ++
        announcements mode last ((steps.take ran.length).map (·.phase)) ++ rest ∧
      ∀ entry ∈ rest, entry.level = .error := by
  induction h with
  | done => exact ⟨[], by simp [announcements]⟩
  | failed steps _ begins =>
    refine ⟨_, by rw [begins]; simp [announcements]; rfl, ?_⟩
    simp [Phase.abortion]
  | passed _ begins _ _ ih =>
    obtain ⟨rest, hrest, hlevel⟩ := ih
    exact ⟨rest, by simp [hrest, begins, announcements], hlevel⟩

end Executes

/-! ## Steps in the order of their phases -/

namespace Phase

/-- The place of a phase in a build. -/
def rank : Phase → Nat
  | .assemble => 0
  | .compile => 1
  | .link => 2

/-- The place of a phase says which one it is. -/
theorem eq_of_rank_le {p q : Phase} (hpq : p.rank ≤ q.rank) (hqp : q.rank ≤ p.rank) : p = q := by
  cases p <;> cases q <;> first | rfl | simp [rank] at hpq hqp

/-- The entry for a phase says which one it is. -/
theorem announcement_injective {p q : Phase} (h : p.announcement mode = q.announcement mode) :
    p = q := by
  cases p <;> cases q <;> first | rfl | (cases mode <;> exact absurd h (by decide))

/-- Phases in the order of a build. -/
def Ordered (phases : List Phase) : Prop :=
  phases.Pairwise (·.rank ≤ ·.rank)

/-- Of phases in order a phase is the last one before itself if it has begun. -/
theorem Ordered.getLast?_take_eq_some_iff {phases : List Phase} (h : Ordered phases) {i : Nat}
    {phase : Phase} (hi : phases[i]? = some phase) :
    (phases.take i).getLast? = some phase ↔ phase ∈ phases.take i := by
  refine ⟨List.mem_of_getLast?, fun hmem => ?_⟩
  obtain ⟨hlt, rfl⟩ := List.getElem?_eq_some_iff.mp hi
  obtain ⟨j, hj, hjeq⟩ := List.mem_take_iff_getElem.mp hmem
  have hle := List.pairwise_iff_getElem.mp h
  -- the phase before is not before the one at `j` and not behind the one at `i`
  have hlast : phases[i - 1] = phases[i] := by
    refine eq_of_rank_le (hle _ _ _ _ (by omega)) ?_
    rw [← hjeq]
    rcases Nat.lt_or_eq_of_le (show j ≤ i - 1 by omega) with hbefore | rfl
    · exact hle _ _ _ _ hbefore
    · exact Nat.le_refl _
  rw [List.getLast?_take, if_neg (by omega), List.getElem?_eq_getElem (by omega), hlast,
    Option.some_or]

/-- Of phases in order each is announced once. -/
theorem count_announcements {phases : List Phase} {last : Option Phase}
    (h : Ordered (last.toList ++ phases)) (phase : Phase) :
    (announcements mode last phases).count (phase.announcement mode) =
      if phase ∈ phases ∧ last ≠ some phase then 1 else 0 := by
  induction phases generalizing last with
  | nil => simp [announcements]
  | cons first phases ih =>
    have hrest : Ordered ((some first).toList ++ phases) :=
      (List.pairwise_append.mp h).2.1
    -- what is logged before the first step; the rest is the induction hypothesis
    have hfirst : (announced mode last first).count (phase.announcement mode) =
        if first = phase ∧ last ≠ some phase then 1 else 0 := by
      rw [announced]
      by_cases hlast : last = some first
      · simp [hlast]
      · by_cases heq : first = phase
        · simp [← heq, hlast]
        · have hne : first.announcement mode ≠ phase.announcement mode :=
            fun hentry => heq (announcement_injective hentry)
          simp [hlast, heq, hne]
    -- a phase does not come back after another one
    have hback (hmem : phase ∈ phases) (hlast : last = some phase) : first = phase := by
      subst hlast
      obtain ⟨hle, -⟩ := List.pairwise_cons.mp h
      exact eq_of_rank_le ((List.pairwise_cons.mp hrest).1 phase hmem) (hle first (by simp))
    rw [announcements, List.count_append, hfirst, ih hrest]
    grind

end Phase

/-- The steps of a plan come in the order of their phases. -/
theorem ordered_of_plan_eq_ok {c : Compilation} {steps : List Step}
    (h : plan context c = .ok steps) : Phase.Ordered (steps.map (·.phase)) := by
  obtain ⟨assemble, compile, link, rfl, hassemble, hcompile, hlink, -⟩ := exists_of_plan_eq_ok h
  have hphases : (assemble ++ compile ++ [link]).map (·.phase) =
      List.replicate assemble.length .assemble ++ List.replicate compile.length .compile ++
        [.link] := by
    rw [List.map_append, List.map_append, List.map_singleton, hlink.phase,
      List.map_eq_replicate_iff.mpr (forall_mem_of_forall₂ (fun _ _ hR => hR.phase) hassemble),
      List.map_eq_replicate_iff.mpr (forall_mem_of_forall₂ (fun _ _ hR => hR.phase) hcompile)]
  rw [hphases, Phase.Ordered, List.pairwise_append, List.pairwise_append]
  simp only [List.pairwise_replicate, List.mem_append, List.mem_replicate, List.mem_singleton]
  grind [Phase.rank]

/-- The executable is made with the tools of a plan only. -/
theorem runsOnly_compile (context : Context) (runner : Runner) (c : Compilation) :
    Action.RunsOnly (·.tool ∈ ["nasm", "cl", Plan.linkTool context.mode])
      (compile context runner c) := by
  intro s
  rw [compile, Action.start_bind, Action.start_liftM]
  cases hplan : plan context c with
  | error e => exact ⟨[], by simp, by simp⟩
  | ok steps =>
    obtain ⟨ran, hruns, -, h⟩ := @executes_runSteps context runner none steps s
    refine ⟨ran, hruns, fun run hrun => ?_⟩
    obtain ⟨step, hstep, heq⟩ := List.mem_map.mp (h.isPrefix.subset (List.mem_map_of_mem hrun))
    rw [← heq]
    exact tool_mem_of_plan_eq_ok hplan hstep

/-- A plan that fails is not begun. Otherwise the tool runs are those of the first steps of the
plan, in order, each with the answer of the runner; all steps run and succeed, or the last one that
runs is the first that fails, and its failure is that of the whole. Each phase of which a step runs
is announced once, right before its first step. -/
theorem compile_fails_fast (context : Context) (runner : Runner) (c : Compilation) (s : Session) :
    let ended := (compile context runner c).start s
    (∀ e, plan context c = .error e → ended = (.error e, s)) ∧
    ∀ steps, plan context c = .ok steps →
      ∃ ran, ended.2.runs = s.runs ++ ran ∧
        ran.map (·.invocation) <+: steps.map (·.invocation) ∧
        (ended.1 = .ok () ↔
          ran.length = steps.length ∧ ∀ run ∈ ran, run.outcome = .ok ()) ∧
        (∀ e, ended.1 = .error e →
          ∃ before failing, ran = before ++ [failing] ∧
            (∀ run ∈ before, run.outcome = .ok ()) ∧ failing.outcome = .error e) ∧
        runner.Answers s.runs s.files ran ∧
        (∃ entries, ended.2.log = s.log ++ entries ∧
          ∀ phase : Phase, entries.count (phase.announcement context.mode) =
            if phase ∈ (steps.take ran.length).map (·.phase) then 1 else 0) ∧
        ∀ i step run, steps[i]? = some step → ran[i]? = some run →
          run.log = logBefore s.log (ran.take i) ++
            if step.phase ∈ (steps.take i).map (·.phase) then []
            else [step.phase.announcement context.mode] := by
  intro ended
  have hended : ended = (compile context runner c).start s := rfl
  rw [compile, Action.start_bind, Action.start_liftM] at hended
  refine ⟨fun e he => by rw [hended, he], fun steps hsteps => ?_⟩
  rw [hsteps] at hended
  dsimp only at hended
  have hordered := ordered_of_plan_eq_ok hsteps
  obtain ⟨ran, hruns, hanswers, h⟩ := @executes_runSteps context runner none steps s
  rw [← hended] at hruns h
  refine ⟨ran, hruns, h.isPrefix, h.eq_ok_iff, fun e => h.exists_of_eq_error, hanswers, ?_,
    fun i step run hstep hrun => ?_⟩
  · obtain ⟨rest, hlog, hlevel⟩ := h.exists_log_eq
    rw [List.append_assoc] at hlog
    refine ⟨_, hlog, fun phase => ?_⟩
    -- behind the announcements stand failures only, which announce nothing
    have hrest : rest.count (phase.announcement context.mode) = 0 :=
      List.count_eq_zero.mpr fun hmem => absurd (hlevel _ hmem) (by simp [Phase.announcement])
    have hran : Phase.Ordered ((none : Option Phase).toList ++
        (steps.take ran.length).map (·.phase)) := by
      rw [List.map_take]
      exact hordered.sublist (List.take_sublist _ _)
    rw [List.count_append, hrest, Phase.count_announcements hran]
    simp
  · -- the phases come in order, so a phase has begun if it is that of the step before
    have hphase : (steps.map (·.phase))[i]? = some step.phase := by
      rw [List.getElem?_map, hstep, Option.map_some]
    rw [h.log_eq hstep hrun, announced, Option.or_none, List.map_take]
    simp only [hordered.getLast?_take_eq_some_iff hphase]

end DemoBuild
