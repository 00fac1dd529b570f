import DemoBuild.Proofs.Header.Settings
import DemoBuild.Proofs.Header.ShaderCode
import DemoBuild.Proofs.Shader.Sections
import Mathlib.Data.List.Basic

/-!
# Uniform arrays on both sides

The program asks for a uniform array by the name that the data header quotes, and finds it if this
is the name by which the published shader declares it. The header prints names of arrays as they are
said to be in the published shader, with a shorter name where there is one, but the shader declares
every array by its own name. So both sides agree where no shorter name is in use. A second reason
for which they can disagree is that macros are named in capitals: the macros of two types that
differ only in case are the same.

## Main definitions

* `UniformEntry`: a uniform array as one of the two sides knows it;
* `UniformEntry.macros` and `UniformEntry.declaration`: how the header and the shader say so.

## Main results

* `DemoData.hasLines_of_start_render`: the lines for a uniform array in the header;
* `DemoData.macros_agree_iff`: when the header and the published shader agree on an array.
-/

namespace DemoBuild

/-- A uniform array as the header or the shader knows it. -/
@[ext]
structure UniformEntry where
  /-- The type of its elements. -/
  typeName : String
  /-- Its name. -/
  name : String
  /-- The number of its elements. -/
  count : Nat

namespace UniformEntry

/-- The lines of the header that define the macros for the name and the number of elements. -/
def macros (e : UniformEntry) : List String :=
  ["#define " ++ Text.upper e.typeName ++ "_UNIFORM_NAME \"" ++ e.name ++ "\"",
    "#define " ++ Text.upper e.typeName ++ "_UNIFORM_COUNT " ++ Number.natText e.count]

/-- The line of the shader that declares the array. -/
def declaration (e : UniformEntry) : String :=
  "uniform " ++ e.typeName ++ " " ++ e.name ++ "[" ++ Number.natText e.count ++ "];"

end UniformEntry

/-! ## The header -/

namespace DemoData

open Text (HasLines)

/-- The lines for the uniform arrays stand in the header one after the other. -/
theorem hasLines_of_start_render {d : DemoData} {context : Context} {s : Session} {text : String}
    (h : ((d.render context).start s).1 = .ok text) :
    HasLines text (d.shader.uniformArrays.flatMap arrayLines) := by
  obtain ⟨-, audio, debug, settings, -, -, -, rfl⟩ := start_render_eq_ok_iff.mp h
  refine ⟨["#pragma once", ""] ++ audio ++ debug,
    locationMacro d.shader context.mode.isDebug ++ [""] ++ shaderLines d.shader ++ settings ++
      d.hooks.map fun hook => "#define " ++ hookMacro hook, ?_⟩
  simp only [headerLines, uniformLines, List.append_assoc]

/-- The lines for an array start with the macros for its name in the header. -/
theorem macros_prefix_arrayLines (a : UniformArray) :
    UniformEntry.macros ⟨a.typeName, a.shaderName, a.count⟩ <+: arrayLines a := by
  refine ⟨["static " ++ hostType a.typeName ++ " " ++ storage a.typeName ++ "[" ++
    countMacro a.typeName ++ "];"] ++ a.elements.zipIdx.map (elementLine a.typeName) ++ [""], ?_⟩
  have hname (name : String) :
      "_UNIFORM_NAME" ++ (" \"" ++ (name ++ "\"")) = "_UNIFORM_NAME \"" ++ (name ++ "\"") := by
    rw [← String.append_assoc]
    rfl
  have hcount (count : String) :
      "_UNIFORM_COUNT" ++ (" " ++ count) = "_UNIFORM_COUNT " ++ count := by
    rw [← String.append_assoc]
    rfl
  simp only [UniformEntry.macros, arrayLines, nameMacro, countMacro, String.append_assoc, hname,
    hcount, List.cons_append, List.nil_append]

/-- What the header and the published shader say about uniform arrays. There is a header only if no
two arrays have one type. For each array it has the macros of an entry, and the shader, which starts
with at most the prolog, has the declaration of one in its first section. Entries of one array have
the same number of elements. All macros with the names of those for an array agree with its
declaration exactly if the array, and any other one whose type is the same in capitals, has no
shorter name than that of the array and as many elements. -/
theorem macros_agree_iff {d : DemoData} {context : Context} {s : Session} {text : String}
    (h : ((d.render context).start s).1 = .ok text) :
    ∃ quoted declared : List UniformEntry,
      (d.shader.uniformArrays.map (·.typeName)).Nodup ∧
      quoted.map (·.typeName) = d.shader.uniformArrays.map (·.typeName) ∧
      (∀ e ∈ quoted, HasLines text e.macros) ∧
      declared.map (·.typeName) = d.shader.uniformArrays.map (·.typeName) ∧
      d.shader.parts.common = Source.joined
        ((if d.shader.interfaces.isEmpty then d.shader.prolog? else none).toList ++
          [Source.titled (some "Uniform arrays")
              ("\n".intercalate (declared.map UniformEntry.declaration)),
            Source.titled (some "Non-uniform global variables")
              ("\n".intercalate d.shader.globalLines),
            Source.titled none d.shader.commonCode]) ∧
      ∀ a ∈ d.shader.uniformArrays, ∃ e ∈ declared,
        e.typeName = a.typeName ∧ e.count = a.elements.length ∧
        ((∀ q ∈ quoted, Text.upper q.typeName = Text.upper e.typeName →
            q.name = e.name ∧ q.count = e.count) ↔
          ∀ b ∈ d.shader.uniformArrays, Text.upper b.typeName = Text.upper a.typeName →
            b.minifiedName.getD b.name = a.name ∧ b.elements.length = a.elements.length) := by
  obtain ⟨hcheck, -⟩ := start_render_eq_ok_iff.mp h
  have hlines := hasLines_of_start_render h
  refine ⟨d.shader.uniformArrays.map fun a => ⟨a.typeName, a.shaderName, a.count⟩,
    d.shader.uniformArrays.map fun a => ⟨a.typeName, a.name, a.count⟩,
    d.shader.checkUniformArrays_eq_ok_iff.mp hcheck, ?_, ?_, ?_, ?_, ?_⟩
  · rw [List.map_map]
    rfl
  · -- the lines for an array stand among those for all arrays
    intro e he
    obtain ⟨a, ha, rfl⟩ := List.mem_map.mp he
    have harray : arrayLines a <:+: d.shader.uniformArrays.flatMap arrayLines := by
      rw [List.flatMap_def]
      exact List.infix_of_mem_flatten (List.mem_map_of_mem ha)
    exact hlines.of_infix ((macros_prefix_arrayLines a).isInfix.trans harray)
  · rw [List.map_map]
    rfl
  · rw [d.shader.common_eq_joined, List.map_map]
    rfl
  · intro a ha
    refine ⟨_, List.mem_map_of_mem ha, rfl, rfl, ?_⟩
    -- the entries with macros of the same names are those of arrays with such types
    simp only [List.forall_mem_map]
    rfl

/-- A shader with one uniform array, which may have a shorter name. -/
def oneArray (minifiedName : Option String) : Shader where
  uniformArrays := [⟨"float", "floatUniforms", minifiedName, [⟨"time", "float", .uniform, true⟩]⟩]

theorem exists_render_oneArray (minifiedName : Option String) :
    ∃ text, ((render ⟨oneArray minifiedName, []⟩ ⟨.empty, .release⟩).start
      ⟨.empty, [], []⟩).1 = .ok text :=
  ⟨_, rfl⟩

/-- Without a shorter name both sides agree on the array. -/
theorem macros_agree_iff_oneArray :
    ∃ text, ((render ⟨oneArray none, []⟩ ⟨.empty, .release⟩).start ⟨.empty, [], []⟩).1 = .ok text ∧
      ∃ e : UniformEntry, e.typeName = "float" ∧ HasLines text e.macros ∧
        (oneArray none).parts.common = Source.joined
          [Source.titled (some "Uniform arrays") e.declaration,
            Source.titled (some "Non-uniform global variables") "", Source.titled none ""] := by
  obtain ⟨text, htext⟩ := exists_render_oneArray none
  obtain ⟨quoted, declared, -, hquoted, hlines, hdeclared, hcommon, hagree⟩ :=
    macros_agree_iff htext
  obtain ⟨q, rfl, hq⟩ := List.map_eq_singleton_iff.mp hquoted
  obtain ⟨e, rfl, he⟩ := List.map_eq_singleton_iff.mp hdeclared
  obtain ⟨e', he', -, -, hiff⟩ := hagree _ List.mem_cons_self
  obtain rfl := List.mem_singleton.mp he'
  -- there is no other array, and this one has no shorter name
  have hshared : Text.upper q.typeName = Text.upper e'.typeName := by rw [hq, he]
  obtain ⟨hname, hcount⟩ := hiff.mpr (by simp [oneArray]) q List.mem_cons_self hshared
  have hsame : q = e' := UniformEntry.ext (hq.trans he.symm) hname hcount
  exact ⟨text, htext, e', he, hsame ▸ hlines q List.mem_cons_self, hcommon⟩

/-- Where there is a shorter name, the header quotes it, but the array is declared by its own
name. -/
theorem minified_name_not_declared :
    (oneArray (some "f")).checkUniformArrays = .ok () ∧
    ∃ text, ((render ⟨oneArray (some "f"), []⟩ ⟨.empty, .release⟩).start
        ⟨.empty, [], []⟩).1 = .ok text ∧
      (CText.directives text).filter ("#define FLOAT_UNIFORM_NAME".toList.isPrefixOf ·) =
        ["#define FLOAT_UNIFORM_NAME \"f\"".toList] ∧
      (oneArray (some "f")).parts.common = Source.joined
        ["// Uniform arrays\n\nuniform float floatUniforms[1];",
          "// Non-uniform global variables\n\n", "\n"] := by
  obtain ⟨text, htext⟩ := exists_render_oneArray (some "f")
  refine ⟨rfl, text, htext, ?_, ?_⟩
  · obtain ⟨-, audio, debug, settings, ⟨⟩, ⟨⟩, ⟨⟩, rfl⟩ := start_render_eq_ok_iff.mp htext
    -- the code of the shader has directives of its own, which define other macros
    have hshader := (reads_shaderLines (oneArray (some "f"))).directives_eq
    rw [CText.directives, headerLines, Text.lines_intercalate (by simp)]
    simp only [List.flatMap_append, List.filter_append, hshader]
    decide +kernel
  · rw [Shader.common_eq_joined]
    rfl

end DemoData

end DemoBuild
