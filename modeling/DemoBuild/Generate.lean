import DemoBuild.Header.Data
import DemoBuild.Header.Requests
import DemoBuild.Header.Template
import DemoBuild.Toolchain.Compilation

/-!
# Generating sources

Every generated source is rendered in full before its file is written, and lives in the build
directory, which is created where it is missing.
-/

namespace DemoBuild

/-- A source that is generated for a build. -/
structure GeneratedSource where
  /-- The name of its file. -/
  fileName : Path
  /-- Its text. -/
  render : Context → Action String

namespace GeneratedSource

/-- The bindings. -/
def bindings (r : Requests) : GeneratedSource :=
  ⟨⟨"demo-gl.hpp"⟩, r.render⟩

/-- The data header. -/
def data (d : DemoData) : GeneratedSource :=
  ⟨⟨"demo-data.hpp"⟩, d.render⟩

/-- The main program. -/
def mainProgram (m : MainProgram) : GeneratedSource :=
  ⟨⟨"main.cpp"⟩, m.render⟩

/-- Writes the source and gives the path of its file. -/
def write (source : GeneratedSource) (context : Context) : Action Path := do
  let build ← context.buildDirectory
  if !(← Action.files).pathExists build then Action.makeDirectories build
  let path := build.join source.fileName
  let text ← source.render context
  Action.write path text
  Action.log .info ("Generated " ++ path.text)
  return path

end GeneratedSource

/-- The file for the source of the whole shader program, which is written for inspection. -/
def shaderDumpName : Path :=
  ⟨"demo-shader.glsl"⟩

/-- Writes the source of the whole shader program and gives the path of its file. -/
def writeShaderDump (context : Context) (s : Shader) : Action Path := do
  let path := (← context.buildDirectory).join shaderDumpName
  let text ← s.assemble .program
  Action.write path text
  return path

/-- Writes all generated sources and gives the paths of their files. -/
def generateSources (context : Context) (s : Shader) (c : Compilation) : Action (List Path) := do
  let bindings ← (GeneratedSource.bindings (.ofConfig context.config)).write context
  let data ← (GeneratedSource.data ⟨s, c.cpp.hooks.keys⟩).write context
  let main ← (GeneratedSource.mainProgram ⟨c.cpp.hooks⟩).write context
  let dump ← writeShaderDump context s
  return [bindings, data, main, dump]

end DemoBuild
