import DemoBuild.Proofs.Failure
import DemoBuild.Proofs.Files.Path
import DemoBuild.Toolchain.Plan
import Mathlib.Data.List.DropRight
import Mathlib.Data.List.Forall2

/-!
# What a plan makes and links

A plan has a step for each source, in the order of the sources, and a last one that links. The
object files that the steps make are read off their arguments, and they are the object files that
are linked. The arguments of the user come first and may look like those that a plan adds.

## Main definitions

* `Plan.Assembles` and `Plan.Compiles`: the step makes the object file of a source;
* `Step.object?`: the object file that a step makes, as its arguments say it.

## Main results

* `Plan.forall₂_assembleStep` and `Plan.forall₂_compileStep`: how the steps for sources are made;
* `exists_parts_of_plan_eq_ok` and `exists_of_plan_eq_ok`: what a plan consists of;
* `plan_links_objects`: what is linked is what is made.
-/

namespace DemoBuild

namespace Plan

/-! ## Steps for sources -/

/-- The step makes the object file of an assembly source. Of the arguments that the plan adds to
those of the user only the one in front of the object file is `-o`. -/
structure Assembles (c : Compilation) (source : AssemblySource) (step : Step) : Prop where
  /-- The step assembles. -/
  phase : step.phase = .assemble
  /-- The tool is the assembler. -/
  tool : step.invocation.tool = "nasm"
  /-- The arguments of the user, and those that the plan adds. -/
  args : ∃ own, step.invocation.args =
    c.assembly.args ++ source.includes ++ own ++ ["-o", source.output, source.source] ∧ "-o" ∉ own

/-- The argument of the compiler that names the object file starts with this. -/
def objectFlag : String :=
  "/Fo"

/-- The argument names the object file. -/
def isObjectArg (arg : String) : Bool :=
  objectFlag.toList.isPrefixOf arg.toList

/-- The step makes the object file of a C++ source. Of the arguments that the plan adds to those of
the user only the one for the object file starts with `/Fo`. -/
structure Compiles (context : Context) (c : Compilation) (source : CppSource) (step : Step) :
    Prop where
  /-- The step compiles. -/
  phase : step.phase = .compile
  /-- The tool is the compiler. -/
  tool : step.invocation.tool = "cl"
  /-- The arguments of the user, and those that the plan adds. -/
  args : ∃ own debug, step.invocation.args =
      c.cpp.args ++ source.includes.map ("/I" ++ ·) ++ context.config.texts "cl:args" ++ own ++
        [objectFlag ++ source.output] ++ debug ++ [source.source] ∧
    ∀ arg ∈ own ++ debug, isObjectArg arg = false

end Plan

/-- The object file that a step makes, as its arguments say it: the assembler gets it behind `-o` as
the last argument but one, the compiler with the last `/Fo` in front of the source. -/
def Step.object? (step : Step) : Option String :=
  match step.phase with
  | .assemble =>
    match step.invocation.args.reverse with
    | _ :: object :: flag :: _ => if flag = "-o" then some object else none
    | _ => none
  | .compile =>
    (step.invocation.args.dropLast.filter Plan.isObjectArg).getLast?.map fun arg =>
      String.ofList (arg.toList.drop Plan.objectFlag.length)
  | .link => none

namespace Plan

variable {context : Context} {c : Compilation}

/-- An assembler step makes the object file of its source. -/
theorem Assembles.object? {source : AssemblySource} {step : Step} (h : Assembles c source step) :
    step.object? = some source.output := by
  obtain ⟨own, hargs, -⟩ := h.args
  simp [Step.object?, h.phase, hargs]

/-- The flag in front of an object file is found. -/
theorem isObjectArg_objectFlag (object : String) : isObjectArg (objectFlag ++ object) = true := by
  rw [isObjectArg, String.toList_append, List.isPrefixOf_iff_prefix]
  exact List.prefix_append _ _

/-- A compiler step makes the object file of its source. -/
theorem Compiles.object? {source : CppSource} {step : Step} (h : Compiles context c source step) :
    step.object? = some source.output := by
  obtain ⟨own, debug, hargs, hother⟩ := h.args
  have hdebug : debug.filter isObjectArg = [] :=
    List.filter_eq_nil_iff.mpr fun arg harg => by simp [hother arg (List.mem_append_right _ harg)]
  have hflag := isObjectArg_objectFlag source.output
  have hdrop : (objectFlag ++ source.output).toList.drop objectFlag.length =
      source.output.toList := by
    rw [String.toList_append, ← String.length_toList, List.drop_left]
  rw [Step.object?, h.phase, hargs]
  simp only [List.dropLast_concat, List.filter_append, hdebug, List.append_nil,
    List.filter_cons_of_pos hflag, List.filter_nil, List.getLast?_concat, Option.map_some, hdrop,
    String.ofList_toList]

/-! ## The parts of a plan -/

/-- The step for an assembly source makes its object file. -/
theorem assembles_assembleStep (nasm build demo : Path) (source : AssemblySource) :
    Assembles c source (assembleStep nasm build demo c.assembly.args source) where
  phase := rfl
  tool := rfl
  args := by
    refine ⟨["-f", "win32", "-i", build.withTrailingSlash, "-i", demo.withTrailingSlash], ?_, ?_⟩
    · simp [assembleStep]
    · -- a directory is written with a slash at its end, so it cannot pass for the flag
      have hdirectory (directory : Path) : "-o" ≠ directory.withTrailingSlash := by
        intro h
        have hslash := directory.hasTrailingSlash_withTrailingSlash
        rw [← h] at hslash
        exact absurd hslash (by decide)
      simp [hdirectory]

/-- The step for a C++ source makes its object file. -/
theorem compiles_compileStep (cl glew : Path) {debug : List String}
    (hdebug : ∀ arg ∈ debug, isObjectArg arg = false) (source : CppSource) :
    Compiles context c source
      (compileStep cl glew c.cpp.args (context.config.texts "cl:args") debug source) where
  phase := rfl
  tool := rfl
  args := by
    refine ⟨["/I" ++ (glew.join ⟨"include"⟩).text, "/FA", "/Fa" ++ source.output ++ ".asm", "/c"],
      debug, ?_, ?_⟩
    · simp [compileStep, objectFlag]
    · have hother (flag : String) (hflag : flag ∈ ["/I", "/FA", "/Fa", "/c"]) (rest : String) :
          isObjectArg (flag ++ rest) = false := by
        simp only [List.mem_cons, List.not_mem_nil, or_false] at hflag
        rcases hflag with rfl | rfl | rfl | rfl <;>
          simp [isObjectArg, objectFlag, List.isPrefixOf]
      intro arg harg
      rcases List.mem_append.mp harg with hown | hmem
      · simp only [List.mem_cons, List.not_mem_nil, or_false] at hown
        rcases hown with rfl | rfl | rfl | rfl
        · exact hother "/I" (by simp) _
        · simpa using hother "/FA" (by simp) ""
        · rw [String.append_assoc]
          exact hother "/Fa" (by simp) _
        · simpa using hother "/c" (by simp) ""
      · exact hdebug arg hmem

/-- A step for each of the sources. -/
theorem forall₂_map {α β : Type} {R : α → β → Prop} {f : α → β} (h : ∀ a, R a (f a)) (l : List α) :
    List.Forall₂ R l (l.map f) := by
  rw [List.forall₂_map_right_iff]
  exact List.forall₂_same.mpr fun a _ => h a

/-- The steps for the assembly sources, given what the configuration says. -/
theorem forall₂_assembleStep {steps : List Step} (h : assembleSteps context c = .ok steps) :
    List.Forall₂ (fun source step => ∃ nasm build demo, context.tool "nasm" = .ok nasm ∧
      context.buildDirectory = .ok build ∧ context.demoDirectory = .ok demo ∧
      step = assembleStep nasm build demo c.assembly.args source) c.assembly.sources steps := by
  rw [assembleSteps] at h
  split at h
  · next hempty =>
    rw [List.isEmpty_iff.mp hempty, ← Except.ok.inj h]
    exact .nil
  · obtain ⟨nasm, hnasm, h⟩ := bind_eq_ok_iff.mp h
    obtain ⟨build, hbuild, h⟩ := bind_eq_ok_iff.mp h
    obtain ⟨demo, hdemo, h⟩ := bind_eq_ok_iff.mp h
    rw [← Except.ok.inj h]
    exact forall₂_map (fun _ => ⟨nasm, build, demo, hnasm, hbuild, hdemo, rfl⟩) _

/-- There is an assembler step for each assembly source. -/
theorem forall₂_of_assembleSteps {steps : List Step} (h : assembleSteps context c = .ok steps) :
    List.Forall₂ (Assembles c) c.assembly.sources steps := by
  refine (forall₂_assembleStep h).imp fun source step hstep => ?_
  obtain ⟨nasm, build, demo, -, -, -, rfl⟩ := hstep
  exact assembles_assembleStep nasm build demo source

/-- The compiler gets these arguments for looking for faults, in one mode only. -/
inductive DebugArgs (context : Context) : List String → Prop
  | debug {build : Path} : context.mode = .debug → context.buildDirectory = .ok build →
    DebugArgs context ["/Zi", "/Fd" ++ build.withTrailingSlash]
  | release : context.mode = .release → DebugArgs context []

/-- The arguments for looking for faults do not name an object file. -/
theorem DebugArgs.isObjectArg_eq {debug : List String} (h : DebugArgs context debug) :
    ∀ arg ∈ debug, isObjectArg arg = false := by
  cases h with
  | debug =>
    intro arg harg
    simp only [List.mem_cons, List.not_mem_nil, or_false] at harg
    rcases harg with rfl | rfl <;> simp [isObjectArg, objectFlag, List.isPrefixOf]
  | release => simp

/-- The steps for the C++ sources, given what the configuration says. -/
theorem forall₂_compileStep {steps : List Step} (h : compileSteps context c = .ok steps) :
    List.Forall₂ (fun source step => ∃ cl glew debug, context.tool "cl" = .ok cl ∧
      context.tool "glew" = .ok glew ∧ DebugArgs context debug ∧
      step = compileStep cl glew c.cpp.args (context.config.texts "cl:args") debug source)
      c.cpp.sources steps := by
  rw [compileSteps] at h
  split at h
  · next hempty =>
    rw [List.isEmpty_iff.mp hempty, ← Except.ok.inj h]
    exact .nil
  · obtain ⟨cl, hcl, h⟩ := bind_eq_ok_iff.mp h
    obtain ⟨glew, hglew, h⟩ := bind_eq_ok_iff.mp h
    -- the arguments for looking for faults are there in one mode only
    cases hmode : context.mode with
    | debug =>
      simp only [hmode, BuildMode.isDebug, beq_self_eq_true, if_true] at h
      obtain ⟨build, hbuild, h⟩ := bind_eq_ok_iff.mp h
      rw [pure_bind] at h
      rw [← Except.ok.inj h]
      exact forall₂_map (fun _ => ⟨cl, glew, _, hcl, hglew, .debug hmode hbuild, rfl⟩) _
    | release =>
      simp only [hmode, BuildMode.isDebug] at h
      rw [← Except.ok.inj h]
      exact forall₂_map (fun _ => ⟨cl, glew, _, hcl, hglew, .release hmode, rfl⟩) _

/-- There is a compiler step for each C++ source. -/
theorem forall₂_of_compileSteps {steps : List Step} (h : compileSteps context c = .ok steps) :
    List.Forall₂ (Compiles context c) c.cpp.sources steps := by
  refine (forall₂_compileStep h).imp fun source step hstep => ?_
  obtain ⟨cl, glew, debug, -, -, hdebug, rfl⟩ := hstep
  exact compiles_compileStep cl glew hdebug.isObjectArg_eq source

/-- The tool that links in a mode. -/
def linkTool : BuildMode → String
  | .debug => "link"
  | .release => "crinkler"

/-- The step links all object files in a mode. -/
structure Links (mode : BuildMode) (c : Compilation) (step : Step) : Prop where
  /-- The step links. -/
  phase : step.phase = .link
  /-- The tool is that of the mode. -/
  tool : step.invocation.tool = linkTool mode
  /-- The object files are the last arguments. -/
  objects : c.objects <:+ step.invocation.args

/-- The last step links all object files, into an executable that is known. -/
theorem links_of_linkStep {step : Step} (h : linkStep context c = .ok step) :
    Links context.mode c step ∧ ∃ executable, context.executable = .ok executable := by
  rw [linkStep] at h
  obtain ⟨executable, hexecutable, h⟩ := bind_eq_ok_iff.mp h
  refine ⟨?_, executable, hexecutable⟩
  -- both modes put the object files behind arguments of their own
  cases hmode : context.mode with
  | debug =>
    rw [hmode] at h
    obtain ⟨glew, -, h⟩ := bind_eq_ok_iff.mp h
    obtain ⟨link, -, h⟩ := bind_eq_ok_iff.mp h
    rw [← Except.ok.inj h]
    exact ⟨rfl, rfl, List.suffix_append _ _⟩
  | release =>
    rw [hmode] at h
    obtain ⟨build, -, h⟩ := bind_eq_ok_iff.mp h
    obtain ⟨crinkler, -, h⟩ := bind_eq_ok_iff.mp h
    rw [← Except.ok.inj h]
    exact ⟨rfl, rfl, List.suffix_append _ _⟩

end Plan

open Plan

variable {context : Context} {c : Compilation} {steps : List Step}

/-- A plan is made of its parts. -/
theorem exists_parts_of_plan_eq_ok (h : plan context c = .ok steps) :
    ∃ assemble compile link, steps = assemble ++ compile ++ [link] ∧
      assembleSteps context c = .ok assemble ∧ compileSteps context c = .ok compile ∧
      linkStep context c = .ok link := by
  obtain ⟨assemble, hassemble, h⟩ := bind_eq_ok_iff.mp h
  obtain ⟨compile, hcompile, h⟩ := bind_eq_ok_iff.mp h
  obtain ⟨link, hlink, h⟩ := bind_eq_ok_iff.mp h
  exact ⟨assemble, compile, link, (Except.ok.inj h).symm, hassemble, hcompile, hlink⟩

/-- What a plan consists of. -/
theorem exists_of_plan_eq_ok (h : plan context c = .ok steps) :
    ∃ assemble compile link, steps = assemble ++ compile ++ [link] ∧
      List.Forall₂ (Assembles c) c.assembly.sources assemble ∧
      List.Forall₂ (Compiles context c) c.cpp.sources compile ∧
      Links context.mode c link ∧ ∃ executable, context.executable = .ok executable := by
  obtain ⟨assemble, compile, link, hsteps, hassemble, hcompile, hlink⟩ :=
    exists_parts_of_plan_eq_ok h
  exact ⟨assemble, compile, link, hsteps, forall₂_of_assembleSteps hassemble,
    forall₂_of_compileSteps hcompile, links_of_linkStep hlink⟩

/-- What holds of every step for a source holds of all steps for sources. -/
theorem forall_mem_of_forall₂ {α : Type} {R : α → Step → Prop} {P : Step → Prop}
    (hR : ∀ source step, R source step → P step) {sources : List α} {steps : List Step}
    (h : List.Forall₂ R sources steps) : ∀ step ∈ steps, P step := by
  induction h with
  | nil => simp
  | cons hstep _ ih => exact List.forall_mem_cons.mpr ⟨hR _ _ hstep, ih⟩

/-- The object files of steps are those of their sources. -/
theorem filterMap_object?_of_forall₂ {α : Type} {R : α → Step → Prop} {output : α → String}
    (hR : ∀ source step, R source step → step.object? = some (output source))
    {sources : List α} {steps : List Step} (h : List.Forall₂ R sources steps) :
    steps.filterMap Step.object? = sources.map output := by
  induction h with
  | nil => rfl
  | cons hstep _ ih => rw [List.filterMap_cons_some (hR _ _ hstep), ih, List.map_cons]

/-- The tools of a plan are the assembler, the compiler and the one that links in the mode. -/
theorem tool_mem_of_plan_eq_ok (h : plan context c = .ok steps) {step : Step}
    (hstep : step ∈ steps) : step.invocation.tool ∈ ["nasm", "cl", linkTool context.mode] := by
  obtain ⟨assemble, compile, link, rfl, hassemble, hcompile, hlink, -⟩ := exists_of_plan_eq_ok h
  rw [List.mem_append, List.mem_append, List.mem_singleton] at hstep
  rcases hstep with (hmem | hmem) | rfl
  · have hnasm := forall_mem_of_forall₂ (fun _ _ hR => hR.tool) hassemble step hmem
    simp [hnasm]
  · have hcl := forall_mem_of_forall₂ (fun _ _ hR => hR.tool) hcompile step hmem
    simp [hcl]
  · simp [hlink.tool]

/-- Everything that is linked is made, and everything that is made is linked: a plan has one step
for each assembly source, then one for each C++ source, and at last the one that links, with the
tool of the mode; the other tool occurs nowhere. The object files that the steps make, as their
arguments say it, are those of the sources, in order, and the last arguments of the linking step. -/
theorem plan_links_objects (context : Context) (c : Compilation) (steps : List Step)
    (h : plan context c = .ok steps) :
    ∃ assemble compile link, steps = assemble ++ compile ++ [link] ∧
      List.Forall₂ (Assembles c) c.assembly.sources assemble ∧
      List.Forall₂ (Compiles context c) c.cpp.sources compile ∧
      link.phase = .link ∧
      (link.invocation.tool = "link" ↔ context.mode = .debug) ∧
      (link.invocation.tool = "crinkler" ↔ context.mode = .release) ∧
      (∀ step ∈ steps, (step.invocation.tool = "link" → context.mode = .debug) ∧
        (step.invocation.tool = "crinkler" → context.mode = .release)) ∧
      steps.filterMap Step.object? = c.objects ∧
      link.invocation.args.rtake (steps.length - 1) = c.objects := by
  obtain ⟨assemble, compile, link, rfl, hassemble, hcompile, hlink, -⟩ := exists_of_plan_eq_ok h
  have htool : (link.invocation.tool = "link" ↔ context.mode = .debug) ∧
      (link.invocation.tool = "crinkler" ↔ context.mode = .release) := by
    rw [hlink.tool]
    cases context.mode <;> decide
  refine ⟨assemble, compile, link, rfl, hassemble, hcompile, hlink.phase, htool.1, htool.2, ?_, ?_,
    ?_⟩
  · intro step hstep
    have hmem := tool_mem_of_plan_eq_ok h hstep
    cases hmode : context.mode with
    | debug =>
      refine ⟨fun _ => rfl, fun hcrinkler => ?_⟩
      simp [hmode, linkTool, hcrinkler] at hmem
    | release =>
      refine ⟨fun hlink => ?_, fun _ => rfl⟩
      simp [hmode, linkTool, hlink] at hmem
  · have hnone : link.object? = none := by
      rw [Step.object?, hlink.phase]
    rw [List.filterMap_append, List.filterMap_append,
      filterMap_object?_of_forall₂ (fun _ _ hR => hR.object?) hassemble,
      filterMap_object?_of_forall₂ (fun _ _ hR => hR.object?) hcompile,
      List.filterMap_cons_none hnone, List.filterMap_nil, List.append_nil, Compilation.objects]
  · obtain ⟨flags, hargs⟩ := hlink.objects
    -- there are as many object files as steps before the last one
    have hlength : (assemble ++ compile ++ [link]).length - 1 = c.objects.length := by
      simp [Compilation.objects, hassemble.length_eq, hcompile.length_eq]
    rw [hlength, ← hargs, List.rtake, List.length_append, Nat.add_sub_cancel, List.drop_left]

/-- A plan for arguments that look like those that a plan adds, in which one object file is made
twice. -/
theorem plan_links_objects_release :
    let context : Context :=
      { config := ⟨.ofList [("paths:build", .text "build"), ("paths:exe", .text "demo.exe"),
          ("directory", .text "."), ("tools:nasm", .text "nasm"), ("tools:cl", .text "cl"),
          ("tools:glew", .text "glew"), ("tools:crinkler", .text "crinkler"),
          ("cl:args", .list [.text "/Foother.obj"])]⟩
        mode := .release }
    let c : Compilation :=
      { assembly :=
          { args := ["-o", "other.obj"]
            sources := [⟨"twice.obj", "-o", []⟩, ⟨"twice.obj", "sound.asm", ["-o"]⟩] }
        cpp := { args := ["/Foother.obj"], sources := [⟨"main.obj", "/Fo.cpp", []⟩] } }
    ∃ steps, plan context c = .ok steps ∧
      steps.filterMap Step.object? = ["twice.obj", "twice.obj", "main.obj"] ∧
      ∃ link ∈ steps, link.invocation.tool = "crinkler" ∧
        link.invocation.args.rtake 3 = ["twice.obj", "twice.obj", "main.obj"] := by
  intro context c
  obtain ⟨steps, hsteps⟩ : ∃ steps, plan context c = .ok steps := ⟨_, rfl⟩
  have hlength : steps.length - 1 = 3 := by
    rw [← Except.ok.inj hsteps]
    rfl
  obtain ⟨assemble, compile, link, rfl, -, -, -, -, htool, -, hobjects, hlinked⟩ :=
    plan_links_objects context c steps hsteps
  rw [hlength] at hlinked
  exact ⟨_, hsteps, hobjects, link, by simp, htool.mpr rfl, hlinked⟩

end DemoBuild
