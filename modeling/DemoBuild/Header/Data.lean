import DemoBuild.Context
import DemoBuild.Header.StringLiteral
import DemoBuild.Session
import DemoBuild.Shader.Assembly
import DemoBuild.Text.Uppercase

/-!
# The data header

The generated header that a demo is compiled with: storage for uniforms, the code of the shader as
string literals, and macros for the settings of the demo.
-/

namespace DemoBuild

/-- What the data header is generated from. -/
structure DemoData where
  /-- The shader. -/
  shader : Shader
  /-- The names of the hooks that are injected into the main program. -/
  hooks : List String

namespace DemoData

/-! ## Uniforms -/

/-- The name in which the first letter and each letter after an underscore are capitals, without
underscores. `upperNext` says that the next letter becomes a capital. -/
def pascalCaseFrom (upperNext : Bool) : List Char → List Char
  | [] => []
  | c :: name =>
    if c = '_' then pascalCaseFrom true name
    else if upperNext then Text.upperChar c ++ pascalCaseFrom false name
    else c :: pascalCaseFrom false name

/-- The name in which the first letter and each letter after an underscore are capitals, without
underscores. -/
def pascalCase (name : String) : String :=
  String.ofList (pascalCaseFrom true name.toList)

/-- The type in which the program stores uniforms of a type of the shader language. -/
def hostType (typeName : String) : String :=
  if "sampler".toList.isPrefixOf typeName.toList then "int" else typeName

/-- The macro for the name of the uniform array of a type. -/
def nameMacro (typeName : String) : String :=
  Text.upper typeName ++ "_UNIFORM_NAME"

/-- The macro for the number of elements of the uniform array of a type. -/
def countMacro (typeName : String) : String :=
  Text.upper typeName ++ "_UNIFORM_COUNT"

/-- The storage for the uniforms of a type. -/
def storage (typeName : String) : String :=
  typeName ++ "Uniforms"

/-- An index between brackets. -/
def bracketed (index : Nat) : String :=
  "[" ++ Number.natText index ++ "]"

/-- The macro that makes the name of a uniform stand for its element. -/
def elementLine (typeName : String) (v : ShaderVariable × Nat) : String :=
  "#define uniform" ++ pascalCase v.1.name ++ " " ++ storage typeName ++ bracketed v.2

/-- The lines for a uniform array: its macros, its storage and its elements. -/
def arrayLines (a : UniformArray) : List String :=
  ["#define " ++ nameMacro a.typeName ++ " \"" ++ a.shaderName ++ "\"",
    "#define " ++ countMacro a.typeName ++ " " ++ Number.natText a.count,
    "static " ++ hostType a.typeName ++ " " ++ storage a.typeName ++ "[" ++
      countMacro a.typeName ++ "];"] ++
    a.elements.zipIdx.map (elementLine a.typeName) ++ [""]

/-- The line that prints where the array as a whole is located. -/
def arrayLocationLine (typeName : String) : String :=
  "std::cout << \"" ++ typeName ++ " \"" ++ nameMacro typeName ++
    "\": \" << glGetUniformLocation(PROGRAM, " ++ nameMacro typeName ++ ") << std::endl; \\"

/-- The line that prints where an element of an array is located. -/
def elementLocationLine (typeName : String) (index : Nat) : String :=
  "std::cout << \"  " ++ typeName ++ " \"" ++ nameMacro typeName ++ "\"" ++ bracketed index ++
    ": \" << glGetUniformLocation(PROGRAM, " ++ nameMacro typeName ++ "\"" ++ bracketed index ++
    "\") << std::endl; \\"

/-- The lines that print where an array and its elements are located. -/
def locationLines (a : UniformArray) : List String :=
  arrayLocationLine a.typeName :: (List.range a.count).map (elementLocationLine a.typeName)

/-- The macro that prints the locations of all uniforms; it does so only where faults are looked
for. -/
def locationMacro (s : Shader) (debug : Bool) : List String :=
  let head := "#define DEBUG_DISPLAY_UNIFORM_LOCATIONS(PROGRAM)"
  if debug then (head ++ " \\") :: s.uniformArrays.flatMap locationLines else [head]

/-- The lines for all uniforms. -/
def uniformLines (s : Shader) (debug : Bool) : List String :=
  s.uniformArrays.flatMap arrayLines ++ locationMacro s debug ++ [""]

/-! ## Shader code -/

/-- The lines that declare a text and a macro saying that it exists. -/
def codeLines (macroName symbol code : String) : List String :=
  ["#define " ++ macroName,
    "static const char *" ++ symbol ++ " = " ++ StringLiteral.render code ++ ";", ""]

/-- The lines that declare a text, unless there is none. -/
def optionalCodeLines (macroName symbol : String) (code : Option String) : List String :=
  match code with
  | some code => codeLines macroName symbol code
  | none => []

/-- The interface declarations of a stage, unless there are none. -/
def interfaceCode (p : Parts) (stage : Stage) : Option String :=
  if p.interfaces.get stage = "" then none else some (p.interfaces.get stage)

/-- The entry of the table of codes for a stage of a pass. -/
def stageLines (index : Nat) (p : Pass) (stage : Stage) : List String :=
  match p.code? stage with
  | some code =>
    ["#define HAS_SHADER_PASS_" ++ Number.natText index ++ "_" ++ stage.macroName ++ "_CODE",
      StringLiteral.render code ++ ","]
  | none => ["nullptr,"]

/-- The entries of the table of codes for a pass. -/
def passLines (p : Pass × Nat) : List String :=
  Stage.all.flatMap (stageLines p.2 p.1)

/-- The lines for the code of the shader. -/
def shaderLines (s : Shader) : List String :=
  let parts := s.parts
  optionalCodeLines "HAS_SHADER_PROLOG_CODE" "shaderPrologCode" parts.prolog ++
    optionalCodeLines "HAS_SHADER_VERTEX_SPECIFIC_CODE" "shaderVertexSpecificCode"
      (interfaceCode parts .vertex) ++
    optionalCodeLines "HAS_SHADER_FRAGMENT_SPECIFIC_CODE" "shaderFragmentSpecificCode"
      (interfaceCode parts .fragment) ++
    codeLines "HAS_SHADER_COMMON_CODE" "shaderCommonCode" parts.common ++
    ["#define PASS_COUNT " ++ Number.natText s.passes.length,
      "static const char *shaderPassCodes[] = \x7b"] ++
    s.passes.zipIdx.flatMap passLines ++ ["\x7d;", ""]

/-- The warnings about passes without code. -/
def passWarnings (s : Shader) : List LogEntry :=
  s.passes.zipIdx.filterMap fun (p, index) =>
    if p.isEmpty then
      some ⟨.warning, "pass " ++ Number.natText index ++ " defines no shader stage"⟩
    else none

/-! ## Settings -/

/-- The lines for a resolution that is not chosen at the start. -/
def resolutionLines (width height : String) : List String :=
  ["#define FORCE_RESOLUTION",
    "static const constexpr int resolutionWidth = " ++ width ++ ";",
    "static const constexpr int resolutionHeight = " ++ height ++ ";"]

/-- The lines for capturing frames. -/
def captureLines (c : Config) : Except Error (List String) := do
  c.require ["capture:fps", "capture:width", "capture:height"]
  let fps ← c.needText "capture:fps"
  let width ← c.needText "capture:width"
  let height ← c.needText "capture:height"
  return ["#define CAPTURE", "#define CAPTURE_FPS " ++ fps] ++ resolutionLines width height

/-- The lines for the resolution of a demo that does not capture frames. -/
def displayLines (c : Config) : Except Error (List String) := do
  let width := (← c.integer? "demo:resolution:width").getD 0
  let height := (← c.integer? "demo:resolution:height").getD 0
  let forced :=
    if 0 < width ∧ 0 < height then resolutionLines (Number.intText width) (Number.intText height)
    else []
  let scaled :=
    match ← c.number? "demo:resolution:scale" with
    | some scale =>
      if 0.0 < scale && scale != 1.0 then
        ["#define SCALE_RESOLUTION " ++ Value.floatStyle.render scale]
      else []
    | none => []
  return "static void captureFrame() \x7b\x7d" :: forced ++ scaled

/-- The duration of the demo, if it is given. -/
def duration? (c : Config) : Option String :=
  ((c.get? "demo:duration").filter Value.truthy).map Value.render

/-- The lines for the settings of the demo. -/
def settingLines (c : Config) : Except Error (List String) := do
  let capture := c.isEnabled "capture"
  let picture ← if capture then captureLines c else displayLines c
  let duration := duration? c
  let durationLines :=
    match duration with
    | some text => ["#define DURATION " ++ text, ""]
    | none => []
  let closes := duration.isSome || capture || c.flag "demo:closeWhenFinished"
  let closeLines := if closes then ["#define CLOSE_WHEN_FINISHED", ""] else []
  let loadingLines :=
    if c.flag "demo:loadingBlackScreen" then ["#define LOADING_BLACK_SCREEN", ""] else []
  return picture ++ [""] ++ durationLines ++ closeLines ++ loadingLines

/-- The lines for sound that a shader makes. -/
def audioLines (c : Config) : Except Error (List String) := do
  if (← c.text? "demo:audio-synthesizer:tool") = some "shader" then
    return ["#include \"audio-shader.cpp\"", "#define AUDIO_TEXTURE", ""]
  else return []

/-- The lines for looking for faults. -/
def debugLines (context : Context) : Except Error (List String) := do
  if !context.mode.isDebug then return []
  let server ←
    if context.config.isEnabled "server" then
      let port ← context.config.needText "server:port"
      pure ["#define SERVER", "#define SERVER_PORT " ++ port, ""]
    else pure []
  return ["#define DEBUG", ""] ++ server

/-! ## Hooks -/

/-- The character of a macro name for a character of the name of a hook. -/
def hookChar (c : Char) : Char :=
  if c.isAlphanum then c.toUpper else '_'

/-- The macro that says that a hook exists. -/
def hookMacro (hook : String) : String :=
  "HAS_HOOK_" ++ String.ofList (hook.toList.map hookChar)

/-! ## The header -/

/-- The header. -/
def render (d : DemoData) (context : Context) : Action String := do
  d.shader.checkUniformArrays
  let audio ← audioLines context.config
  let debug ← debugLines context
  Action.logAll (passWarnings d.shader)
  let settings ← settingLines context.config
  return "\n".intercalate <|
    ["#pragma once", ""] ++ audio ++ debug ++ uniformLines d.shader context.mode.isDebug ++
      shaderLines d.shader ++ settings ++ d.hooks.map fun hook => "#define " ++ hookMacro hook

end DemoData

end DemoBuild
