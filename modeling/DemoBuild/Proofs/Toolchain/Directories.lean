import DemoBuild.Proofs.Config.History
import DemoBuild.Proofs.Files.Normalize
import DemoBuild.Proofs.Number.Text
import DemoBuild.Proofs.Toolchain.Plan

/-!
# Directories in a plan

The assembler and the compiler get directories with a slash at the end. Such an argument denotes the
directory that is configured, with one exception: the empty path is the working directory, but a
slash at its end makes it the root. A directory is configured as the empty path by an empty text in
the environment or the document, and that of the demo also where the demo lies in the empty path.

## Main definitions

* `DirectoryArg`: what an argument says that is written for a directory;
* `Plan.PassesDirectories` and `Plan.PassesDebugDirectory`: the directories that a step passes.

## Main results

* `directoryArg_withTrailingSlash`: which arguments denote their directories;
* `Config.path_eq_empty_iff`, `Config.get?_build_eq_empty_iff` and
  `Config.get?_directory_eq_empty_iff`: when a path is empty;
* `plan_passes_directories`: the directories in a plan.
-/

namespace DemoBuild

/-! ## Arguments for directories -/

/-- The argument is written for the directory: it ends with a slash, and it denotes the directory,
unless that is written as the empty path; then the argument is the root. -/
structure DirectoryArg (arg : String) (directory : Path) : Prop where
  /-- The argument ends with a slash. -/
  slash : (⟨arg⟩ : Path).hasTrailingSlash = true
  /-- It leads to the directory, unless that is written as the empty path. -/
  normalize_eq_iff : (⟨arg⟩ : Path).normalize = directory.normalize ↔ directory.text ≠ ""
  /-- The empty path becomes the root. -/
  eq_root : directory.text = "" → arg = "/"

/-- A path with a slash at its end is an argument for the directory. -/
theorem directoryArg_withTrailingSlash (directory : Path) :
    DirectoryArg directory.withTrailingSlash directory where
  slash := directory.hasTrailingSlash_withTrailingSlash
  normalize_eq_iff := Path.normalize_eq_iff.trans Path.location_withTrailingSlash_eq_iff
  eq_root := by
    intro hempty
    obtain rfl : directory = ⟨""⟩ := congrArg Path.mk hempty
    decide

namespace Plan

/-- The step passes the configured directories to the assembler. -/
def PassesDirectories (context : Context) (source : AssemblySource) (step : Step) : Prop :=
  ∃ build demo buildArg demoArg,
    context.buildDirectory = .ok build ∧ context.demoDirectory = .ok demo ∧
      ["-f", "win32", "-i", buildArg, "-i", demoArg, "-o", source.output, source.source] <:+
        step.invocation.args ∧
      DirectoryArg buildArg build ∧ DirectoryArg demoArg demo

/-- Where faults are looked for, the step passes the configured directory to the compiler. -/
def PassesDebugDirectory (context : Context) (source : CppSource) (step : Step) : Prop :=
  context.mode = .debug → ∃ build buildArg, context.buildDirectory = .ok build ∧
    ["/Zi", "/Fd" ++ buildArg, source.source] <:+ step.invocation.args ∧ DirectoryArg buildArg build

variable {context : Context} {c : Compilation}

/-- Each assembler step passes the configured directories. -/
theorem forall₂_passesDirectories {steps : List Step} (h : assembleSteps context c = .ok steps) :
    List.Forall₂ (PassesDirectories context) c.assembly.sources steps := by
  refine (forall₂_assembleStep h).imp fun source step hstep => ?_
  obtain ⟨nasm, build, demo, -, hbuild, hdemo, rfl⟩ := hstep
  exact ⟨build, demo, _, _, hbuild, hdemo, List.suffix_append _ _,
    directoryArg_withTrailingSlash build, directoryArg_withTrailingSlash demo⟩

/-- Each compiler step passes the configured directory. -/
theorem forall₂_passesDebugDirectory {steps : List Step} (h : compileSteps context c = .ok steps) :
    List.Forall₂ (PassesDebugDirectory context) c.cpp.sources steps := by
  refine (forall₂_compileStep h).imp fun source step hstep hmode => ?_
  obtain ⟨cl, glew, debug, -, -, hdebug, rfl⟩ := hstep
  cases hdebug with
  | @debug build _ hbuild =>
    refine ⟨build, _, hbuild, ?_, directoryArg_withTrailingSlash build⟩
    rw [compileStep, List.append_assoc]
    exact List.suffix_append _ _
  | release hrelease =>
    rw [hmode] at hrelease
    cases hrelease

end Plan

/-! ## Empty paths -/

namespace Config

/-- A text that is needed is the one that can be read. -/
theorem needText_eq_ok_iff {c : Config} {key text : String} :
    c.needText key = .ok text ↔ c.text? key = .ok (some text) := by
  rw [needText, bind_eq_ok_iff]
  constructor
  · rintro ⟨text?, htext, h⟩
    cases text? with
    | none => cases h
    | some found =>
      obtain rfl := Except.ok.inj h
      exact htext
  · intro h
    exact ⟨_, h, rfl⟩

/-- A path is empty if the text is that is set. -/
theorem path_eq_empty_iff {c : Config} {key : String} :
    c.path key = .ok ⟨""⟩ ↔ c.get? key = some (.text "") := by
  have hpath : c.path key = .ok ⟨""⟩ ↔ c.text? key = .ok (some "") := by
    rw [path, bind_eq_ok_iff, ← needText_eq_ok_iff]
    constructor
    · rintro ⟨text, htext, h⟩
      obtain rfl : text = "" := congrArg Path.text (Except.ok.inj h)
      exact htext
    · intro h
      exact ⟨_, h, rfl⟩
  rw [hpath, text?]
  cases c.get? key with
  | none => simp
  | some value =>
    -- of the other values none is written as the empty text
    cases value with
    | text text => simp [Value.render]
    | list values => simp
    | bool b => cases b <;> simp [Value.render]
    | integer n => simp [Value.render, Number.intText_ne_empty]
    | float x =>
      have hne : Value.floatStyle.render x ≠ "" :=
        Number.FloatStyle.render_ne_empty (by decide) (by decide) x
      simp [Value.render, hne]

/-- The directory for generated files is the empty path if the environment or else the document says
so: its default lies in the directory of the demo. -/
theorem get?_build_eq_empty_iff (document : Config) (env : Environment) (root : Path) :
    ((document.setAll env.entries).fillDefaults root).get? "paths:build" = some (.text "") ↔
      (env.value? "paths:build").or (document.get? "paths:build") = some (.text "") := by
  have hdefault : default? root "paths:build" = some (.text (root.join ⟨"build"⟩).text) := rfl
  have hne : (root.join ⟨"build"⟩).text ≠ "" := root.text_join_ne_empty (by decide)
  have hkey : normalizeKey "paths:build" = "paths:build" := by decide
  rw [get?_layered, hkey, hdefault]
  cases (env.value? "paths:build").or (document.get? "paths:build") with
  | none => simp [hne]
  | some value => simp

/-- The directory of a demo is the empty path if it is said to be, or else if the demo lies in the
empty path. -/
theorem get?_directory_eq_empty_iff (document : Config) (env : Environment) (root : Path) :
    ((document.setAll env.entries).fillDefaults root).get? "directory" = some (.text "") ↔
      ((env.value? "directory").or (document.get? "directory")).getD (.text root.text) =
        .text "" := by
  have hdefault : default? root "directory" = some (.text root.text) := rfl
  have hkey : normalizeKey "directory" = "directory" := by decide
  rw [get?_layered, hkey, hdefault]
  cases (env.value? "directory").or (document.get? "directory") with
  | none => simp
  | some value => simp

end Config

open Plan

/-- The directories of a plan are those that are configured. Every assembler step passes the
directory for generated files and that of the demo, and where faults are looked for every compiler
step passes the first of them, each with a slash at the end. Such an argument denotes the directory
exactly if it is not configured as the empty path; if it is, the argument is the root. Where a
directory is configured as for a demo, that for generated files is the empty path only if the
environment or else the document says so, and that of the demo also if neither says anything and the
demo lies in the empty path. -/
theorem plan_passes_directories {context : Context} {c : Compilation} {steps : List Step}
    (h : plan context c = .ok steps) :
    (∃ assemble compile link, steps = assemble ++ compile ++ [link] ∧
      List.Forall₂ (PassesDirectories context) c.assembly.sources assemble ∧
      List.Forall₂ (PassesDebugDirectory context) c.cpp.sources compile) ∧
    ∀ (env : Environment) (root : Path) (s : Session) (config : Config),
      ((Config.init env root).start s).1 = .ok config →
      ∃ t?, Config.DocumentAt s.files root t? ∧
        (context.config.get? "paths:build" = config.get? "paths:build" →
          (context.buildDirectory = .ok ⟨""⟩ ↔
            (env.value? "paths:build").or ((Config.ofDocument t?).get? "paths:build") =
              some (.text ""))) ∧
        (context.config.get? "directory" = config.get? "directory" →
          (context.demoDirectory = .ok ⟨""⟩ ↔
            ((env.value? "directory").or ((Config.ofDocument t?).get? "directory")).getD
              (.text root.text) = .text "")) := by
  constructor
  · obtain ⟨assemble, compile, link, hsteps, hassemble, hcompile, -⟩ :=
      exists_parts_of_plan_eq_ok h
    exact ⟨assemble, compile, link, hsteps, forall₂_passesDirectories hassemble,
      forall₂_passesDebugDirectory hcompile⟩
  · intro env root s config hinit
    obtain ⟨t?, ht⟩ := Config.exists_documentAt_of_init hinit
    rw [Config.start_init env ht] at hinit
    obtain rfl := Except.ok.inj hinit
    refine ⟨t?, ht, fun hbuild => ?_, fun hdirectory => ?_⟩
    · rw [Context.buildDirectory, Config.path_eq_empty_iff, hbuild]
      exact Config.get?_build_eq_empty_iff _ env root
    · rw [Context.demoDirectory, Config.path_eq_empty_iff, hdirectory]
      exact Config.get?_directory_eq_empty_iff _ env root

/-- A configuration with the tools for assembling and publishing. -/
def withTools (config : Config) : Config :=
  (config.set "tools:nasm" (.text "nasm")).set "tools:crinkler" (.text "crinkler")

/-- The configuration of a demo, with an empty text in the environment for generated files. -/
def builtInEmpty : Config :=
  (Config.empty.setAll [("paths:build", .text "")]).fillDefaults ⟨"demo/"⟩

/-- The empty text in the environment becomes the root, but the directory of the demo is spelled
out. -/
theorem plan_passes_directories_demo :
    ((Config.init { buildDirectory := some "" } ⟨"demo/"⟩).start ⟨.empty, [], []⟩).1 =
        .ok builtInEmpty ∧
      (⟨withTools builtInEmpty, .release⟩ : Context).buildDirectory = .ok ⟨""⟩ ∧
      ∃ steps, plan ⟨withTools builtInEmpty, .release⟩
          { assembly := { sources := [⟨"a.obj", "a.asm", []⟩] } } = .ok steps ∧
        ∃ step ∈ steps, ∃ demoArg,
          ["-f", "win32", "-i", "/", "-i", demoArg, "-o", "a.obj", "a.asm"] <:+
            step.invocation.args ∧
          (⟨demoArg⟩ : Path).normalize = ⟨"demo"⟩ := by
  have hinit : ((Config.init { buildDirectory := some "" } ⟨"demo/"⟩).start ⟨.empty, [], []⟩).1 =
      .ok builtInEmpty := rfl
  obtain ⟨steps, hsteps⟩ : ∃ steps, plan ⟨withTools builtInEmpty, .release⟩
      { assembly := { sources := [⟨"a.obj", "a.asm", []⟩] } } = .ok steps := ⟨_, rfl⟩
  have hbuilt : (withTools builtInEmpty).get? "paths:build" = builtInEmpty.get? "paths:build" := by
    rw [withTools, Config.get?_set, if_neg (by decide), Config.get?_set, if_neg (by decide)]
  obtain ⟨⟨assemble, compile, link, rfl, hassemble, -⟩, hempty⟩ := plan_passes_directories hsteps
  -- the environment decides, whatever the document says
  obtain ⟨t?, -, hiff, -⟩ := hempty _ _ _ _ hinit
  refine ⟨hinit, (hiff hbuilt).mpr rfl, _, hsteps, ?_⟩
  obtain ⟨step, rest, ⟨build, demo, buildArg, demoArg, hbuild, hdemo, hargs, hb, hd⟩, -, rfl⟩ :=
    List.forall₂_cons_left_iff.mp hassemble
  obtain rfl : build = ⟨""⟩ := (Except.ok.inj hbuild).symm
  obtain rfl : demo = ⟨"demo/"⟩ := (Except.ok.inj hdemo).symm
  obtain rfl : buildArg = "/" := hb.eq_root rfl
  refine ⟨step, by simp, demoArg, hargs, ?_⟩
  rw [hd.normalize_eq_iff.mpr (by decide)]
  decide

/-- The directory of a demo in the empty path is passed as the root. -/
theorem plan_passes_root :
    let config := Config.empty.fillDefaults ⟨""⟩
    ((Config.init {} ⟨""⟩).start ⟨.empty, [], []⟩).1 = .ok config ∧
      (⟨withTools config, .release⟩ : Context).demoDirectory = .ok ⟨""⟩ ∧
      ∃ step link, plan ⟨withTools config, .release⟩
          { assembly := { sources := [⟨"a.obj", "a.asm", []⟩] } } = .ok [step, link] ∧
        step.invocation.args =
          ["-f", "win32", "-i", "build/", "-i", "/", "-o", "a.obj", "a.asm"] ∧
        (⟨"/"⟩ : Path).normalize ≠ (⟨""⟩ : Path).normalize :=
  ⟨rfl, rfl, _, _, rfl, by decide +kernel, by decide⟩

end DemoBuild
