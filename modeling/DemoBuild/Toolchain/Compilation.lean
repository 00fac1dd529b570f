import DemoBuild.Dictionary

/-!
# What to compile

The sources of a demo besides its shader, and the arguments that the tools get.
-/

namespace DemoBuild

/-- A source in assembly language. -/
structure AssemblySource where
  /-- The object file to make. -/
  output : String
  /-- The source file. -/
  source : String
  /-- Further arguments, as they are. -/
  includes : List String := []
  deriving DecidableEq, Inhabited

/-- A source in C++. -/
structure CppSource where
  /-- The object file to make. -/
  output : String
  /-- The source file. -/
  source : String
  /-- Directories in which to look for headers. -/
  includes : List String := []
  deriving DecidableEq, Inhabited

/-- The assembly part of a demo. -/
structure AssemblyPart where
  /-- Arguments for every source. -/
  args : List String := []
  /-- The sources. -/
  sources : List AssemblySource := []
  deriving DecidableEq, Inhabited

/-- The C++ part of a demo. -/
structure CppPart where
  /-- Arguments for every source. -/
  args : List String := []
  /-- The sources. -/
  sources : List CppSource := []
  /-- Code to inject into the main program, by placeholder. -/
  hooks : Dictionary String := .empty
  deriving DecidableEq, Inhabited

/-- What to compile. -/
structure Compilation where
  /-- The assembly part. -/
  assembly : AssemblyPart := {}
  /-- The C++ part. -/
  cpp : CppPart := {}
  /-- Arguments for the linker. -/
  linkArgs : List String := []
  /-- Arguments for the packer. -/
  packArgs : List String := []
  deriving DecidableEq, Inhabited

/-- The object files: those of the assembly part, then those of the C++ part. -/
def Compilation.objects (c : Compilation) : List String :=
  c.assembly.sources.map (·.output) ++ c.cpp.sources.map (·.output)

end DemoBuild
