import DemoBuild.Generate
import DemoBuild.Proofs.Files.Path
import DemoBuild.Proofs.Number.Text
import DemoBuild.Proofs.Shader.UniformArrays
import DemoBuild.Shader.Validation
import Mathlib.Data.List.Basic

/-!
# The stages to validate and their files

The stages with code are validated in the order of the passes, and each of them has a file of its
own, which is none of the generated sources.

## Main results

* `Validation.mem_attempts_iff` and `Validation.pairwise_attempts`: what is validated, in which
  order;
* `Validation.stageFile_location_injective`: different stages have different files;
* `Validation.location_stageFile_ne`: the file of a stage is no generated source.
-/

namespace DemoBuild

/-- The names of the generated sources. -/
def sourceNames (r : Requests) (d : DemoData) (m : MainProgram) : List Path :=
  [(GeneratedSource.bindings r).fileName, (GeneratedSource.data d).fileName,
    (GeneratedSource.mainProgram m).fileName, shaderDumpName]

/-- No generated source has the name of a file that starts with a `v`. -/
theorem head?_ne_of_mem_sourceNames {r : Requests} {d : DemoData} {m : MainProgram} {name : Path}
    (hname : name ∈ sourceNames r d m) :
    Path.IsName name.text ∧ name.text.toList.head? ≠ some 'v' := by
  have hnames : sourceNames r d m =
      [⟨"demo-gl.hpp"⟩, ⟨"demo-data.hpp"⟩, ⟨"main.cpp"⟩, ⟨"demo-shader.glsl"⟩] := rfl
  simp only [hnames, List.mem_cons, List.not_mem_nil, or_false] at hname
  rcases hname with rfl | rfl | rfl | rfl <;>
    exact ⟨⟨⟨by decide, by decide⟩, by decide, by decide⟩, by decide⟩

namespace Validation

/-- One stage comes before another: passes in order, and in a pass the vertex stage first. -/
def Precedes (a b : Nat × Stage) : Prop :=
  a.1 < b.1 ∨ a.1 = b.1 ∧ a.2 = .vertex ∧ b.2 = .fragment

/-- The pass has code for the stage that is not empty. -/
def HasCode (s : Shader) : Nat × Stage → Prop
  | (pass, .vertex) => ∃ p code, s.passes[pass]? = some p ∧ p.vertexCode = some code ∧ code ≠ ""
  | (pass, .fragment) =>
    ∃ p code, s.passes[pass]? = some p ∧ p.fragmentCode = some code ∧ code ≠ ""

variable {s : Shader} {target : Nat × Stage}

/-! ## The stages -/

/-- The stages with code are the stages of the passes. -/
theorem hasCode_iff :
    HasCode s target ↔ ∃ p, s.passes[target.1]? = some p ∧ target.2 ∈ p.stages := by
  obtain ⟨pass, stage⟩ := target
  cases stage <;> simp [HasCode, Pass.stages, Stage.all, Pass.code?, Option.any_eq_true]

/-- Exactly the stages with code are validated. -/
theorem mem_attempts_iff : target ∈ attempts s ↔ HasCode s target := by
  obtain ⟨pass, stage⟩ := target
  rw [hasCode_iff, attempts, List.mem_flatMap]
  constructor
  · rintro ⟨⟨p, index⟩, hp, hmem⟩
    obtain ⟨stage', hstage, heq⟩ := List.mem_map.mp hmem
    cases heq
    exact ⟨p, List.mem_zipIdx_iff_getElem?.mp hp, hstage⟩
  · rintro ⟨p, hp, hstage⟩
    exact ⟨(p, pass), List.mem_zipIdx_iff_getElem?.mpr hp, List.mem_map.mpr ⟨stage, hstage, rfl⟩⟩

/-- Stages are validated pass by pass, the vertex stage first. -/
theorem pairwise_attempts (s : Shader) : (attempts s).Pairwise Precedes := by
  rw [attempts, List.pairwise_flatMap]
  constructor
  · -- the stages of one pass
    rintro ⟨p, index⟩ -
    have hall : Stage.all.Pairwise fun a b => a = .vertex ∧ b = .fragment := by
      simp [Stage.all]
    exact List.pairwise_map.mpr ((hall.filter _).imp fun h => .inr ⟨rfl, h⟩)
  · -- the stages of two passes
    have hindex : s.passes.zipIdx.Pairwise fun a b => a.2 < b.2 := by
      rw [← List.pairwise_map, List.zipIdx_map_snd]
      exact List.pairwise_lt_range'
    refine hindex.imp fun hlt a ha b hb => ?_
    obtain ⟨stage, -, rfl⟩ := List.mem_map.mp ha
    obtain ⟨stage', -, rfl⟩ := List.mem_map.mp hb
    exact .inl hlt

/-- No stage comes before itself. -/
theorem Precedes.ne {a b : Nat × Stage} (h : Precedes a b) : a ≠ b := by
  rintro rfl
  rcases h with hlt | ⟨-, hvertex, hfragment⟩
  · exact Nat.lt_irrefl _ hlt
  · exact absurd (hvertex.symm.trans hfragment) (by decide)

/-- No stage is validated twice. -/
theorem nodup_attempts (s : Shader) : (attempts s).Nodup :=
  (pairwise_attempts s).imp Precedes.ne

/-- The source of a stage with code is missing only if two uniform arrays have one type. -/
theorem exists_duplicate_of_assemble_eq_error (hcode : HasCode s target) {e : Error}
    (h : s.assemble (.stage target.2 target.1) = .error e) :
    ∃ typeName, e = .duplicateUniformArray typeName := by
  obtain ⟨p, hp, hstage⟩ := hasCode_iff.mp hcode
  obtain ⟨code, hcode⟩ := Option.isSome_iff_exists.mp (List.mem_filter.mp hstage).2
  have hstageCode : s.stageCode target.2 target.1 = .ok code := by
    rw [Shader.stageCode, Shader.pass?, hp, Option.bind_some, hcode]
  rw [Shader.assemble, hstageCode] at h
  -- the code is there, so it is the check of the arrays that has failed
  cases hcheck : s.checkUniformArrays with
  | ok u =>
    rw [hcheck] at h
    cases h
  | error e' =>
    rw [hcheck] at h
    cases h
    exact Shader.exists_of_checkUniformArrays_eq_error hcheck

/-! ## The files -/

/-- The name of the file for a stage of a pass. -/
def stageFileName (target : Nat × Stage) : String :=
  "validate_p" ++ Number.natText target.1 ++ "." ++ target.2.extension

/-- The characters of the name. -/
theorem toList_stageFileName (target : Nat × Stage) :
    (stageFileName target).toList = "validate_p".toList ++
      ((Number.natText target.1).toList ++ '.' :: target.2.extension.toList) := by
  simp [stageFileName]

/-- The name is a name. -/
theorem isName_stageFileName (target : Nat × Stage) : Path.IsName (stageFileName target) := by
  -- no name that means something else starts with a `v`
  have hhead : (stageFileName target).toList.head? = some 'v' := by
    rw [toList_stageFileName]
    rfl
  have hne {text : String} (htext : text.toList.head? ≠ some 'v') : stageFileName target ≠ text :=
    fun heq => htext (heq ▸ hhead)
  refine ⟨⟨hne (by decide), ?_⟩, hne (by decide), hne (by decide)⟩
  rw [toList_stageFileName]
  simp only [List.mem_append, List.mem_cons, not_or]
  refine ⟨by decide, fun hmem => ?_, by decide, ?_⟩
  · exact absurd (Number.isDigit_of_mem_natText hmem) (by decide)
  · cases target.2 <;> decide

/-- The name says which stage of which pass it is. -/
theorem stageFileName_injective : Function.Injective stageFileName := by
  intro a b h
  have htext := congrArg String.toList h
  rw [toList_stageFileName, toList_stageFileName] at htext
  have hdigits : '.' ∉ (Number.natText a.1).toList :=
    fun hmem => absurd (Number.isDigit_of_mem_natText hmem) (by decide)
  have hletters : '.' ∉ a.2.extension.toList := by
    cases a.2 <;> decide
  -- the only dot stands behind the digits
  obtain ⟨hnumber, -, hextension⟩ :=
    (List.append_cons_inj_of_notMem hdigits hletters).mp (List.append_cancel_left htext)
  refine Prod.ext (Number.natText_injective (String.toList_inj.mp hnumber)) ?_
  cases ha : a.2 <;> cases hb : b.2 <;> rw [ha, hb] at hextension <;>
    first | rfl | exact absurd hextension (by decide)

/-- The file for a stage lies in the build directory. -/
theorem location_stageFile (build : Path) (target : Nat × Stage) :
    (stageFile build target.1 target.2).location =
      ⟨build.location.anchor, stageFileName target :: build.location.names⟩ :=
  Path.location_join_name build (isName_stageFileName target)

/-- Different stages have different files. -/
theorem stageFile_location_injective (build : Path) :
    Function.Injective fun target : Nat × Stage =>
      (stageFile build target.1 target.2).location := by
  intro a b h
  simp only [location_stageFile, Location.mk.injEq, List.cons.injEq, true_and, and_true] at h
  exact stageFileName_injective h

/-- The file for a stage is no generated source. -/
theorem location_stageFile_ne (build : Path) (target : Nat × Stage) {r : Requests} {d : DemoData}
    {m : MainProgram} {name : Path} (hname : name ∈ sourceNames r d m) :
    (stageFile build target.1 target.2).location ≠ (build.join name).location := by
  obtain ⟨hisName, hhead⟩ := head?_ne_of_mem_sourceNames hname
  rw [location_stageFile, Path.location_join_name build hisName]
  intro heq
  have htext : stageFileName target = name.text := by
    simpa using heq
  refine hhead ?_
  rw [← htext, toList_stageFileName]
  rfl

end Validation

end DemoBuild
