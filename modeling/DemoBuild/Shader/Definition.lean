import DemoBuild.Error
import DemoBuild.Shader.Stage
import DemoBuild.Text.Blank

/-!
# Shaders

A `Shader` is the code of a demo in the pieces in which its author writes it: blocks that all stages
share, arrays of uniforms, global variables, and passes with code for single stages. Each type of
the shader language has at most one array of uniforms.
-/

namespace DemoBuild

/-- What a shader variable is. -/
inductive VariableKind where
  /-- An element of a uniform array. -/
  | uniform
  /-- A constant. -/
  | constant
  /-- A plain global variable. -/
  | global
  deriving DecidableEq, Repr, Inhabited

/-- A variable of a shader. -/
structure ShaderVariable where
  /-- Its name. -/
  name : String
  /-- The name of its type. -/
  typeName : String := ""
  /-- What it is. -/
  kind : VariableKind := .global
  /-- It is in use. -/
  active : Bool := true
  deriving DecidableEq, Repr, Inhabited

/-- The variable is declared on its own; uniforms live in their array. -/
def ShaderVariable.isGlobal (v : ShaderVariable) : Bool :=
  v.active && v.kind != .uniform

/-- An array that stands for single uniforms of one type. -/
structure UniformArray where
  /-- The name of the type. -/
  typeName : String
  /-- The name of the array. -/
  name : String
  /-- Its name in the published shader, if that is another one. -/
  minifiedName : Option String := none
  /-- The uniforms that its elements stand for. -/
  elements : List ShaderVariable := []
  deriving DecidableEq, Repr, Inhabited

namespace UniformArray

/-- The name of the array in the published shader. -/
def shaderName (a : UniformArray) : String :=
  a.minifiedName.getD a.name

/-- The number of elements. -/
def count (a : UniformArray) : Nat :=
  a.elements.length

end UniformArray

/-- The code of one pass. -/
structure Pass where
  /-- The code of the vertex stage. -/
  vertexCode : Option String := none
  /-- The code of the fragment stage. -/
  fragmentCode : Option String := none
  deriving DecidableEq, Repr, Inhabited

namespace Pass

/-- The code of a stage; empty code counts as none. -/
def code? (p : Pass) (stage : Stage) : Option String :=
  let code :=
    match stage with
    | .vertex => p.vertexCode
    | .fragment => p.fragmentCode
  code.filter (· ≠ "")

/-- The stages that have code. -/
def stages (p : Pass) : List Stage :=
  Stage.all.filter fun stage => (p.code? stage).isSome

/-- No stage has code. -/
def isEmpty (p : Pass) : Bool :=
  p.stages.isEmpty

end Pass

/-- The shader of a demo. -/
structure Shader where
  /-- Code in front of everything else. -/
  prologCode : Option String := none
  /-- Code for all stages. -/
  commonCode : String := ""
  /-- Declarations of the inputs of the vertex stage. -/
  attributesCode : Option String := none
  /-- Declarations of what the vertex stage hands to the fragment stage. -/
  varyingsCode : Option String := none
  /-- Declarations of the outputs of the fragment stage. -/
  outputsCode : Option String := none
  /-- The arrays of uniforms, in the order of their declaration. -/
  uniformArrays : List UniformArray := []
  /-- The variables. -/
  vars : List ShaderVariable := []
  /-- The passes. -/
  passes : List Pass := []
  deriving DecidableEq, Repr, Inhabited

namespace Shader

/-- The code of a block; a blank block counts as none. -/
def blockOf (code : Option String) : Option String :=
  code.filter fun code => !Text.isBlankText code

/-- The code in front of everything else. -/
def prolog? (s : Shader) : Option String :=
  blockOf s.prologCode

/-- The declarations of the inputs of the vertex stage. -/
def attributes? (s : Shader) : Option String :=
  blockOf s.attributesCode

/-- The declarations of what the vertex stage hands to the fragment stage. -/
def varyings? (s : Shader) : Option String :=
  blockOf s.varyingsCode

/-- The declarations of the outputs of the fragment stage. -/
def outputs? (s : Shader) : Option String :=
  blockOf s.outputsCode

/-- The first array of a type. -/
def uniformArray? (s : Shader) (typeName : String) : Option UniformArray :=
  s.uniformArrays.find? (·.typeName = typeName)

/-- Appends an array, unless its type has one already. -/
def appendUniformArray (a : UniformArray) : ExceptT Error (StateM Shader) Unit := do
  if ((← get).uniformArray? a.typeName).isSome then
    throw (.duplicateUniformArray a.typeName)
  modify fun s => { s with uniformArrays := s.uniformArrays ++ [a] }

/-- The shader with an array that has been appended, if it can be. -/
def addUniformArray (s : Shader) (a : UniformArray) : Except Error Shader :=
  match (appendUniformArray a).run.run s with
  | (.ok (), s) => .ok s
  | (.error e, _) => .error e

/-- Fails with the type of the first array that is not the first one of its type. -/
def checkUniformArrays (s : Shader) : Except Error Unit :=
  let repeated? := s.uniformArrays.zipIdx.find? fun (a, i) =>
    s.uniformArrays.findIdx (·.typeName = a.typeName) ≠ i
  match repeated? with
  | some (a, _) => .error (.duplicateUniformArray a.typeName)
  | none => .ok ()

/-- The variables that are declared on their own. -/
def globals (s : Shader) : List ShaderVariable :=
  s.vars.filter ShaderVariable.isGlobal

/-- A pass by its position. -/
def pass? (s : Shader) (index : Nat) : Option Pass :=
  s.passes[index]?

end Shader

end DemoBuild
