import DemoBuild.Context
import DemoBuild.Toolchain.Compilation
import DemoBuild.Toolchain.Invocation

/-!
# Build plans

`plan` lists the tool runs that make the executable, in order: one for each assembly source, one for
each C++ source, and a last one that links. Demos are linked by the linker where faults are looked
for, and by the packer for publishing.
-/

namespace DemoBuild

/-- The phases of a build. -/
inductive Phase where
  /-- Assembly sources. -/
  | assemble
  /-- C++ sources. -/
  | compile
  /-- The executable. -/
  | link
  deriving DecidableEq, Repr

/-- The name of a phase. -/
def Phase.name : Phase → String
  | .assemble => "assemble"
  | .compile => "compile"
  | .link => "link"

/-- One tool run of a plan. -/
structure Step where
  /-- Its phase. -/
  phase : Phase
  /-- What to run. -/
  invocation : Invocation
  deriving DecidableEq, Repr

namespace Plan

/-- The run for an assembly source. -/
def assembleStep (nasm build demo : Path) (args : List String) (source : AssemblySource) : Step :=
  { phase := .assemble
    invocation :=
      { tool := "nasm"
        program := nasm
        args := args ++ source.includes ++ ["-f", "win32", "-i", build.withTrailingSlash,
          "-i", demo.withTrailingSlash, "-o", source.output, source.source] } }

/-- The runs for the assembly sources. -/
def assembleSteps (context : Context) (c : Compilation) : Except Error (List Step) := do
  if c.assembly.sources.isEmpty then return []
  let nasm ← context.tool "nasm"
  let build ← context.buildDirectory
  let demo ← context.demoDirectory
  return c.assembly.sources.map (assembleStep nasm build demo c.assembly.args)

/-- The run for a C++ source: `extra` and `debug` are arguments that all of them share. -/
def compileStep (cl glew : Path) (args extra debug : List String) (source : CppSource) : Step :=
  { phase := .compile
    invocation :=
      { tool := "cl"
        program := cl
        args := args ++ source.includes.map ("/I" ++ ·) ++ extra ++
          ["/I" ++ (glew.join ⟨"include"⟩).text, "/FA", "/Fa" ++ source.output ++ ".asm", "/c",
            "/Fo" ++ source.output] ++ debug ++ [source.source] } }

/-- The runs for the C++ sources. -/
def compileSteps (context : Context) (c : Compilation) : Except Error (List Step) := do
  if c.cpp.sources.isEmpty then return []
  let cl ← context.tool "cl"
  let extra := context.config.texts "cl:args"
  let glew ← context.tool "glew"
  let debug ←
    if context.mode.isDebug then
      pure ["/Zi", "/Fd" ++ (← context.buildDirectory).withTrailingSlash]
    else pure []
  return c.cpp.sources.map (compileStep cl glew c.cpp.args extra debug)

/-- The library of the vendored loader. -/
def loaderLibrary (glew : Path) : Path :=
  (((glew.join ⟨"lib"⟩).join ⟨"Release"⟩).join ⟨"Win32"⟩).join ⟨"glew32s.lib"⟩

/-- The run that links the executable. -/
def linkStep (context : Context) (c : Compilation) : Except Error Step := do
  let out := "/OUT:" ++ (← context.executable).text
  match context.mode with
  | .debug =>
    let library := loaderLibrary (← context.tool "glew")
    let link ← context.tool "link"
    let args := c.linkArgs ++ context.config.texts "link:args" ++
      ["/DEBUG", "/INCREMENTAL:NO", library.text, out] ++ c.objects
    return ⟨.link, { tool := "link", program := link, args }⟩
  | .release =>
    let report := (← context.buildDirectory).join ⟨"stats.html"⟩
    let crinkler ← context.tool "crinkler"
    let args := c.packArgs ++ context.config.texts "crinkler:args" ++
      ["/REPORT:" ++ report.text, out] ++ c.objects
    return ⟨.link, { tool := "crinkler", program := crinkler, args }⟩

end Plan

/-- The tool runs that make the executable. -/
def plan (context : Context) (c : Compilation) : Except Error (List Step) := do
  let assemble ← Plan.assembleSteps context c
  let compile ← Plan.compileSteps context c
  let link ← Plan.linkStep context c
  return assemble ++ compile ++ [link]

end DemoBuild
