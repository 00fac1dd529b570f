import DemoBuild.Manifest.Demo
import DemoBuild.Yaml.Tree

/-!
# Demos as document trees

The tree of a manifest that describes a demo, with every field written out.
-/

namespace DemoBuild.Manifest

open Yaml (Tree)

/-- A mapping with names as keys. -/
def recordTree (fields : List (String × Tree)) : Tree :=
  .mapping (fields.map fun (name, t) => (.text name, t))

/-- A list. -/
def listTree {α : Type} (write : α → Tree) (items : List α) : Tree :=
  .sequence (items.map write)

/-- A text that may be absent. -/
def optionalTree : Option String → Tree
  | some s => .text s
  | none => .null

/-- The name of a kind of variables. -/
def kindName : VariableKind → String
  | .uniform => "uniform"
  | .constant => "const"
  | .global => "global"

/-- The tree of a variable. -/
def variableTree (v : ShaderVariable) : Tree :=
  recordTree [("name", .text v.name), ("type", .text v.typeName), ("kind", .text (kindName v.kind)),
    ("active", .bool v.active)]

/-- The tree of a uniform array, without its type. -/
def arrayTree (a : UniformArray) : Tree :=
  recordTree ([("name", .text a.name)] ++ (a.minifiedName.map ("minifiedName", .text ·)).toList ++
    [("variables", listTree variableTree a.elements)])

/-- The tree of the uniform arrays: a mapping from type to array. -/
def arraysTree (arrays : List UniformArray) : Tree :=
  recordTree (arrays.map fun a => (a.typeName, arrayTree a))

/-- The tree of a pass. -/
def passTree (p : Pass) : Tree :=
  recordTree [("vertexCode", optionalTree p.vertexCode),
    ("fragmentCode", optionalTree p.fragmentCode)]

/-- The tree of a shader. -/
def shaderTree (s : Shader) : Tree :=
  recordTree [("prologCode", optionalTree s.prologCode), ("commonCode", .text s.commonCode),
    ("attributesCode", optionalTree s.attributesCode),
    ("varyingsCode", optionalTree s.varyingsCode), ("outputsCode", optionalTree s.outputsCode),
    ("uniformArrays", arraysTree s.uniformArrays),
    ("variables", listTree variableTree s.vars), ("passes", listTree passTree s.passes)]

/-- The tree of a source. -/
def sourceTree (output source : String) (includes : List String) : Tree :=
  recordTree [("output", .text output), ("source", .text source),
    ("includes", listTree .text includes)]

/-- The tree of the assembly part. -/
def assemblyTree (p : AssemblyPart) : Tree :=
  recordTree [("nasmArgs", listTree .text p.args),
    ("sources", listTree (fun s => sourceTree s.output s.source s.includes) p.sources)]

/-- The tree of the C++ part. -/
def cppTree (p : CppPart) : Tree :=
  recordTree [("clArgs", listTree .text p.args),
    ("sources", listTree (fun s => sourceTree s.output s.source s.includes) p.sources),
    ("hooks", recordTree (p.hooks.entries.map fun (name, code) => (name, .text code)))]

/-- The tree of what to compile. -/
def compilationTree (c : Compilation) : Tree :=
  recordTree [("asm", assemblyTree c.assembly), ("cpp", cppTree c.cpp),
    ("linkArgs", listTree .text c.linkArgs), ("crinklerArgs", listTree .text c.packArgs)]

/-- The tree of a demo. -/
def demoTree (d : Demo) : Tree :=
  recordTree [("shader", shaderTree d.shader), ("compilation", compilationTree d.compilation)]

end DemoBuild.Manifest
