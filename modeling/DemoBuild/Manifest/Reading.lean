import DemoBuild.Manifest.Demo
import DemoBuild.Manifest.Reader

/-!
# Demos from document trees

The shape of a manifest. Uniform arrays are given as a mapping from type to array or as a list of
arrays with their types; either way each type occurs once.
-/

namespace DemoBuild.Manifest

open Yaml (Tree Reader Mismatch)
open Yaml.Reader (field)

/-- Reads what a variable is. A tag counts as its name; unknown names mean global variables. -/
def variableKind : Reader VariableKind := fun t =>
  let kind (name : String) : VariableKind :=
    if name = "uniform" then .uniform else if name = "const" then .constant else .global
  match t with
  | .text name => .ok (kind name)
  | .tagged name .null => .ok (kind name)
  | .tagged _ node => node.refuse .nothing
  | t => t.refuse .choice

/-- Reads a variable. -/
def shaderVariable : Reader ShaderVariable :=
  .record "Variable"
    [field "name" .text fun v name => { v with name },
      field "type" .text fun v typeName => { v with typeName },
      field "kind" variableKind fun v kind => { v with kind },
      field "active" .bool fun v active => { v with active }]
    ["name"] { name := "" }

/-- The fields of a uniform array other than its type. -/
def arrayFields : List (Reader.Field UniformArray) :=
  [field "name" .text fun a name => { a with name },
    field "minifiedName" (.optional .text) fun a minifiedName => { a with minifiedName },
    field "variables" (.list shaderVariable) fun a elements => { a with elements }]

/-- Reads a uniform array with its type. -/
def typedArray : Reader UniformArray :=
  .record "UniformArray"
    (field "type" .text (fun a typeName => { a with typeName }) :: arrayFields)
    ["type", "name"] { typeName := "", name := "" }

/-- Reads a uniform array whose type is known. -/
def arrayOf (typeName : String) : Reader UniformArray :=
  .record "Entry" arrayFields ["name"] { typeName, name := "" }

/-- Appends an array whose type is new. -/
def appendArray (arrays : List UniformArray) (a : UniformArray) :
    Except Mismatch (List UniformArray) :=
  if arrays.any (·.typeName = a.typeName) then .error (.repeatedType a.typeName)
  else .ok (arrays ++ [a])

/-- Reads the uniform arrays. -/
def uniformArrays : Reader (List UniformArray)
  | .mapping entries =>
    entries.foldlM (fun arrays (key, value) => do
      let typeName ← Reader.text key
      appendArray arrays (← arrayOf typeName value)) []
  | .sequence items =>
    items.foldlM (fun arrays item => do appendArray arrays (← typedArray item)) []
  | t => t.refuse .uniformArrays

/-- Reads a pass. -/
def pass : Reader Pass :=
  .record "Pass"
    [field "vertexCode" (.optional .text) fun p vertexCode => { p with vertexCode },
      field "fragmentCode" (.optional .text) fun p fragmentCode => { p with fragmentCode }]
    [] {}

/-- Reads a shader. -/
def shader : Reader Shader :=
  .record "ShaderDefinition"
    [field "prologCode" (.optional .text) fun s prologCode => { s with prologCode },
      field "commonCode" .text fun s commonCode => { s with commonCode },
      field "attributesCode" (.optional .text) fun s attributesCode => { s with attributesCode },
      field "varyingsCode" (.optional .text) fun s varyingsCode => { s with varyingsCode },
      field "outputsCode" (.optional .text) fun s outputsCode => { s with outputsCode },
      field "uniformArrays" uniformArrays fun s uniformArrays => { s with uniformArrays },
      field "variables" (.list shaderVariable) fun s vars => { s with vars },
      field "passes" (.list pass) fun s passes => { s with passes }]
    [] {}

/-- Reads a source in assembly language. -/
def assemblySource : Reader AssemblySource :=
  .record "AssemblySource"
    [field "output" .text fun s output => { s with output },
      field "source" .text fun s source => { s with source },
      field "includes" (.list .text) fun s includes => { s with includes }]
    ["output", "source"] { output := "", source := "" }

/-- Reads a source in C++. -/
def cppSource : Reader CppSource :=
  .record "CppSource"
    [field "output" .text fun s output => { s with output },
      field "source" .text fun s source => { s with source },
      field "includes" (.list .text) fun s includes => { s with includes }]
    ["output", "source"] { output := "", source := "" }

/-- Reads the assembly part. -/
def assemblyPart : Reader AssemblyPart :=
  .record "AsmCompilation"
    [field "nasmArgs" (.list .text) fun p args => { p with args },
      field "sources" (.list assemblySource) fun p sources => { p with sources }]
    [] {}

/-- Reads the hooks. -/
def hooks : Reader (Dictionary String) := fun t => do
  let pairs ← (← Reader.entries .mapping t).mapM fun (key, value) => do
    let key ← Reader.text key
    return (key, ← Reader.text value)
  return Dictionary.ofList pairs

/-- Reads the C++ part. -/
def cppPart : Reader CppPart :=
  .record "CppCompilation"
    [field "clArgs" (.list .text) fun p args => { p with args },
      field "sources" (.list cppSource) fun p sources => { p with sources },
      field "hooks" hooks fun p hooks => { p with hooks }]
    [] {}

/-- Reads what to compile. -/
def compilation : Reader Compilation :=
  .record "CompilationSpec"
    [field "asm" assemblyPart fun c assembly => { c with assembly },
      field "cpp" cppPart fun c cpp => { c with cpp },
      field "linkArgs" (.list .text) fun c linkArgs => { c with linkArgs },
      field "crinklerArgs" (.list .text) fun c packArgs => { c with packArgs }]
    [] {}

/-- Reads a demo. -/
def demo : Reader Demo :=
  .record "DemoDefinition"
    [field "shader" shader fun d shader => { d with shader },
      field "compilation" compilation fun d compilation => { d with compilation }]
    [] {}

end DemoBuild.Manifest
