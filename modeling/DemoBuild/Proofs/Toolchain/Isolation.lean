import DemoBuild.Proofs.Config.Section
import DemoBuild.Toolchain.Plan

/-!
# What a plan depends on

A plan reads some settings in every mode, and those of the tool that links in its mode. The settings
and the arguments of the other linking tool have no influence on the plan, nor on why there is none:
they may be missing, or have any shape.

## Main definitions

* `Plan.linkKeys` and `Plan.linkArgs`: the settings and the arguments of the tool that links;
* `Plan.SameInputs`: two plans are made of the same settings and sources.

## Main results

* `plan_congr`: what a plan depends on;
* `plan_isolated`: the tool that does not link has no influence.
-/

namespace DemoBuild

namespace Plan

/-- The settings that a plan reads in every mode. -/
def sharedKeys : List String :=
  ["tools:nasm", "tools:cl", "tools:glew", "cl:args", "directory", "paths:build", "paths:exe"]

/-- The settings of the tool that links in a mode. -/
def linkKeys : BuildMode → List String
  | .debug => ["tools:link", "link:args"]
  | .release => ["tools:crinkler", "crinkler:args"]

/-- The arguments that the tool gets that links in a mode. -/
def linkArgs (c : Compilation) : BuildMode → List String
  | .debug => c.linkArgs
  | .release => c.packArgs

/-- The mode in which the other tool links. -/
def otherMode : BuildMode → BuildMode
  | .debug => .release
  | .release => .debug

/-- Two plans are made of the same settings and sources, as far as these are read. -/
structure SameInputs (context context' : Context) (c c' : Compilation) : Prop where
  /-- The mode is the same. -/
  mode : context'.mode = context.mode
  /-- The settings that are read in every mode. -/
  shared : ∀ key ∈ sharedKeys, context'.config.get? key = context.config.get? key
  /-- The settings of the tool that links. -/
  link : ∀ key ∈ linkKeys context.mode, context'.config.get? key = context.config.get? key
  /-- The assembly part. -/
  assembly : c'.assembly = c.assembly
  /-- The C++ part. -/
  cpp : c'.cpp = c.cpp
  /-- The arguments of the tool that links. -/
  args : linkArgs c' context.mode = linkArgs c context.mode

namespace SameInputs

variable {context context' : Context} {c c' : Compilation}

/-- The tools that are used in every mode are the same. -/
theorem tool_eq (h : SameInputs context context' c c') {name : String}
    (hname : "tools:" ++ name ∈ sharedKeys) : context'.tool name = context.tool name :=
  Config.path_congr (h.shared _ hname)

theorem buildDirectory_eq (h : SameInputs context context' c c') :
    context'.buildDirectory = context.buildDirectory :=
  Config.path_congr (h.shared "paths:build" (by decide))

theorem demoDirectory_eq (h : SameInputs context context' c c') :
    context'.demoDirectory = context.demoDirectory :=
  Config.path_congr (h.shared "directory" (by decide))

theorem executable_eq (h : SameInputs context context' c c') :
    context'.executable = context.executable :=
  Config.path_congr (h.shared "paths:exe" (by decide))

/-- The same sources make the same object files. -/
theorem objects_eq (h : SameInputs context context' c c') : c'.objects = c.objects := by
  rw [Compilation.objects, Compilation.objects, h.assembly, h.cpp]

/-- The assembler has the same runs. -/
theorem assembleSteps_eq (h : SameInputs context context' c c') :
    assembleSteps context' c' = assembleSteps context c := by
  rw [assembleSteps, assembleSteps, h.assembly, h.tool_eq (by decide), h.buildDirectory_eq,
    h.demoDirectory_eq]

/-- The compiler has the same runs. -/
theorem compileSteps_eq (h : SameInputs context context' c c') :
    compileSteps context' c' = compileSteps context c := by
  have hextra : context'.config.texts "cl:args" = context.config.texts "cl:args" :=
    Config.texts_congr (h.shared "cl:args" (by decide))
  rw [compileSteps, compileSteps, h.cpp, h.mode, h.tool_eq (by decide), h.tool_eq (by decide),
    h.buildDirectory_eq, hextra]

/-- The tool that links has the same run. -/
theorem linkStep_eq (h : SameInputs context context' c c') :
    linkStep context' c' = linkStep context c := by
  have hlink := h.link
  have hargs := h.args
  rw [linkStep, linkStep, h.mode, h.executable_eq, h.objects_eq]
  -- each mode asks for its own tool
  cases hmode : context.mode with
  | debug =>
    rw [hmode] at hlink hargs
    have htool : context'.tool "link" = context.tool "link" :=
      Config.path_congr (hlink "tools:link" (by decide))
    have hglew : context'.tool "glew" = context.tool "glew" := h.tool_eq (by decide)
    have hown : c'.linkArgs = c.linkArgs := hargs
    simp only [hglew, htool, hown,
      Config.texts_congr (hlink "link:args" (by decide))]
  | release =>
    rw [hmode] at hlink hargs
    have htool : context'.tool "crinkler" = context.tool "crinkler" :=
      Config.path_congr (hlink "tools:crinkler" (by decide))
    have hown : c'.packArgs = c.packArgs := hargs
    simp only [h.buildDirectory_eq, htool, hown,
      Config.texts_congr (hlink "crinkler:args" (by decide))]

end SameInputs

end Plan

open Plan

/-- A plan, or why there is none, depends on the settings and sources that are read. -/
theorem plan_congr {context context' : Context} {c c' : Compilation}
    (h : SameInputs context context' c c') : plan context' c' = plan context c := by
  rw [plan, plan, h.assembleSteps_eq, h.compileSteps_eq, h.linkStep_eq]

/-- Settings of the other tool are not read. -/
theorem not_mem_linkKeys_otherMode {mode : BuildMode} {key : String}
    (hkey : key ∈ sharedKeys ++ linkKeys mode) :
    Config.normalizeKey key ∉ linkKeys (otherMode mode) := by
  have hapart : ∀ mode ∈ [BuildMode.debug, .release], ∀ key ∈ sharedKeys ++ linkKeys mode,
      Config.normalizeKey key ∉ linkKeys (otherMode mode) := by decide +kernel
  exact hapart mode (by cases mode <;> simp) key hkey

/-- The tool that does not link in a mode has no influence: two configurations that differ in its
settings only, and two compilations that differ in its arguments only, give the same plan, or the
same failure. The settings may be added, removed, or changed to any value. -/
theorem plan_isolated (mode : BuildMode) {config config' : Config}
    (hconfig : Config.AgreeOutside (· ∈ linkKeys (otherMode mode)) config config')
    {c c' : Compilation} (hassembly : c'.assembly = c.assembly) (hcpp : c'.cpp = c.cpp)
    (hargs : linkArgs c' mode = linkArgs c mode) :
    plan ⟨config', mode⟩ c' = plan ⟨config, mode⟩ c := by
  have hread {key : String} (hkey : key ∈ sharedKeys ++ linkKeys mode) :
      config'.get? key = config.get? key :=
    hconfig.get?_eq (not_mem_linkKeys_otherMode hkey)
  exact plan_congr
    { mode := rfl
      shared := fun _ hkey => hread (List.mem_append_left _ hkey)
      link := fun _ hkey => hread (List.mem_append_right _ hkey)
      assembly := hassembly
      cpp := hcpp
      args := hargs }

/-- A demo can be published with a linker that is a list, and with arguments for it; and where it is
not known where the loader is, that is what is missing for the linker, whatever the packer is. -/
theorem plan_isolated_otherLinker :
    let config : Config := ⟨.ofList [("paths:build", .text "build"), ("paths:exe", .text "demo.exe"),
      ("tools:crinkler", .text "crinkler"), ("tools:link", .text "link")]⟩
    (plan ⟨config, .release⟩ {}).isOk = true ∧
      plan ⟨config.set "tools.link" (.list []), .release⟩ { linkArgs := ["/DEBUG"] } =
        plan ⟨config, .release⟩ {} ∧
      plan ⟨config, .debug⟩ {} = .error (.missingConfig ["tools:glew"]) ∧
      plan ⟨(config.set "tools:crinkler" (.list [])).set "crinkler:args" (.bool true), .debug⟩
        { packArgs := ["/COMPMODE:SLOW"] } = plan ⟨config, .debug⟩ {} := by
  intro config
  have hlink : Config.AgreeOutside (· ∈ linkKeys (otherMode .release)) config
      (config.set "tools.link" (.list [])) :=
    (Config.AgreeOutside.refl _ _).set (by decide) _
  have hpack : Config.AgreeOutside (· ∈ linkKeys (otherMode .debug)) config
      ((config.set "tools:crinkler" (.list [])).set "crinkler:args" (.bool true)) :=
    ((Config.AgreeOutside.refl _ _).set (by decide) _).set (by decide) _
  exact ⟨by decide +kernel, plan_isolated .release hlink rfl rfl rfl, rfl,
    plan_isolated .debug hpack rfl rfl rfl⟩

end DemoBuild
