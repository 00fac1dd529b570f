import DemoBuild.Shader.Declaration
import DemoBuild.Shader.Definition
import DemoBuild.Shader.Source

/-!
# Assembling shader code

The pieces of a shader are put together in two ways. `Shader.assemble` gives the source of a single
stage, as the validator sees it, or of the whole program. `Shader.parts` gives the pieces that a
published demo joins while it runs: the prolog, what a stage needs of its own, and the common code.
Each has its own account of the interface: `Shader.interfaces` goes through the blocks and hands the
declarations of each to the stages that see it, and `Shader.interfaceBlocks` lists the blocks of one
stage.
-/

namespace DemoBuild

/-- What to assemble. -/
inductive Selector where
  /-- The declarations of all stages, with the interface blocks as they are written. -/
  | program
  /-- One stage of one pass. -/
  | stage (stage : Stage) (pass : Nat)
  deriving DecidableEq, Repr

/-- The interface declarations that the stages need in addition to the common code. -/
structure Interfaces where
  /-- Those of the vertex stage. -/
  vertex : String
  /-- Those of the fragment stage. -/
  fragment : String
  deriving DecidableEq, Repr

namespace Interfaces

/-- Those of a stage. -/
def get (i : Interfaces) : Stage → String
  | .vertex => i.vertex
  | .fragment => i.fragment

/-- No stage needs any. -/
def isEmpty (i : Interfaces) : Bool :=
  i.vertex == "" && i.fragment == ""

end Interfaces

/-- An interface block that a stage sees: its title, its code, and the qualifier of its
declarations. -/
structure InterfaceBlock where
  /-- The title of its section. -/
  title : String
  /-- The code. -/
  code : Option String
  /-- The qualifier. -/
  qualifier : String

/-- The declarations of the block, qualified; none if there is no block. -/
def InterfaceBlock.qualified? (b : InterfaceBlock) : Option String :=
  b.code.map (qualify · b.qualifier)

/-- The pieces of a published shader. -/
structure Parts where
  /-- The prolog, unless it has become part of the common code. -/
  prolog : Option String
  /-- What the stages need of their own. -/
  interfaces : Interfaces
  /-- The code of all stages. -/
  common : String
  deriving DecidableEq, Repr

namespace Shader

/-- The interface declarations of all stages: attributes come into the vertex stage, varyings go
from it into the fragment stage, and outputs leave that. -/
def interfaces (s : Shader) : Interfaces :=
  let declared (block? : Option String) (qualifier : String) : String :=
    match block? with
    | some block => qualify block qualifier
    | none => ""
  { vertex := declared s.attributes? "in" ++ declared s.varyings? "out"
    fragment := declared s.varyings? "in" ++ declared s.outputs? "out" }

/-- The declaration of a uniform array. -/
def uniformLine (a : UniformArray) : String :=
  "uniform " ++ a.typeName ++ " " ++ a.name ++ "[" ++ Number.natText a.count ++ "];"

/-- The declaration of a global variable. -/
def globalLine (v : ShaderVariable) : String :=
  v.typeName ++ " " ++ v.name ++ ";"

/-- Appends the declarations of the uniform arrays and of the global variables. -/
def addDeclarations (s : Shader) (source : Source) : Source :=
  let arrays := "\n".intercalate (s.uniformArrays.map uniformLine)
  let globals := "\n".intercalate (s.globals.map globalLine)
  let source := source.append (some "Uniform arrays") arrays
  source.append (some "Non-uniform global variables") globals

/-- The pieces of the published shader. The prolog joins the common code if no stage has anything of
its own that would stand between them. -/
def parts (s : Shader) : Parts :=
  let interfaces := s.interfaces
  let folded := if interfaces.isEmpty then s.prolog? else none
  let start :=
    match folded with
    | some prolog => Source.empty.raw prolog
    | none => Source.empty
  { prolog := if interfaces.isEmpty then none else s.prolog?
    interfaces
    common := ((s.addDeclarations start).append none s.commonCode).render }

/-- The code of a stage of a pass. -/
def stageCode (s : Shader) (stage : Stage) (pass : Nat) : Except Error String :=
  match (s.pass? pass).bind (·.code? stage) with
  | some code => .ok code
  | none => .error (.missingStageCode pass stage)

/-- Appends a section for each block that exists. -/
def addBlocks (blocks : List (String × Option String)) (source : Source) : Source :=
  blocks.foldl (fun source (title, block?) =>
    match block? with
    | some block => source.append (some title) block
    | none => source) source

/-- Assembles the prolog, the declarations, interface blocks and the common code. -/
def assembleWith (s : Shader) (blocks : List (String × Option String)) : Source :=
  let start :=
    match s.prolog? with
    | some prolog => Source.empty.raw prolog
    | none => Source.empty
  (addBlocks blocks (s.addDeclarations start)).append none s.commonCode

/-- The source of the whole program. -/
def programSource (s : Shader) : Source :=
  s.assembleWith
    [("Attributes", s.attributes?), ("Varyings", s.varyings?), ("Outputs", s.outputs?)]

/-- The interface blocks in the source of a stage: what comes in, then what goes out. -/
def interfaceBlocks (s : Shader) : Stage → List InterfaceBlock
  | .vertex => [⟨"Attributes", s.attributes?, "in"⟩, ⟨"Varyings", s.varyings?, "out"⟩]
  | .fragment => [⟨"Varyings", s.varyings?, "in"⟩, ⟨"Outputs", s.outputs?, "out"⟩]

/-- The source of a stage of a pass that has the given code. -/
def stageSource (s : Shader) (stage : Stage) (pass : Nat) (code : String) : Source :=
  let blocks := (s.interfaceBlocks stage).map fun b => (b.title, b.qualified?)
  (s.assembleWith blocks).append
    (some ("Pass " ++ Number.natText pass ++ " " ++ stage.name)) code

/-- The source of what is selected. It is an error if two uniform arrays have one type, or if the
pass has no code for the stage. -/
def assemble (s : Shader) (selector : Selector) : Except Error String := do
  s.checkUniformArrays
  match selector with
  | .program => return s.programSource.render
  | .stage stage pass =>
    let code ← s.stageCode stage pass
    return (s.stageSource stage pass code).render

end Shader

end DemoBuild
