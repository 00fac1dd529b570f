import DemoBuild.Proofs.Shader.Assembly

/-!
# Sections of assembled code

Assembled code is a list of sections with one separator between any two that follow each other:
the prolog, the declarations, the interface blocks, the common code and, for a stage, the code of
its pass. All sources of one stage start with the same sections and differ in the last one only.

A source is put together line by line, and whether a section starts with a separator is decided by
what has been appended before. `Source.Holds` is what every step keeps: the text so far is that of
the sections so far.

## Main definitions

* `Source.titled` and `Source.joined`: the text of a section, and of several;
* `Source.Holds`: a source consists of sections;
* `Shader.Provides`: a pass has code for a stage;
* `Shader.leadingSections`: the sections in front of the code of a pass.

## Main results

* `Source.Holds.append`: appending a section;
* `Shader.common_eq_joined`: the sections of the common code of a published shader;
* `Shader.assemble_eq_duplicate_iff` and `Shader.assemble_eq_missing_iff`: when there is no source;
* `Shader.assemble_sections`: what is assembled.
-/

namespace DemoBuild

namespace Source

/-- The text of a section: its title in a comment, an empty line, and its body. -/
def titled (title : Option String) (body : String) : String :=
  match title with
  | some title => "// " ++ title ++ "\n\n" ++ body
  | none => "\n" ++ body

/-- What stands between two sections: a separator on a line of its own, behind an empty line. -/
def divider : String :=
  "\n\n#pragma separator\n"

/-- The text of several sections. -/
def joined (sections : List String) : String :=
  divider.intercalate sections

/-- The source consists of these sections. -/
structure Holds (source : Source) (sections : List String) : Prop where
  /-- The text is that of the sections. -/
  render_eq : source.render = joined sections
  /-- There is a first line as soon as there is a section. -/
  lines_eq_nil_iff : source.lines = [] ↔ sections = []

theorem intercalate_sectionLines (title : Option String) (body : String) :
    "\n".intercalate (sectionLines true title body) = titled title body := by
  cases title with
  | none => simp [sectionLines, titled]
  | some title =>
    rw [← String.toList_inj]
    simp [sectionLines, titled]

/-- A section behind others starts with what stands between two sections. -/
theorem newline_append_sectionLines (title : Option String) (body : String) :
    "\n" ++ "\n".intercalate (sectionLines false title body) = divider ++ titled title body := by
  have hlines : sectionLines false title body = ["", separator] ++ sectionLines true title body :=
    rfl
  have hne : sectionLines true title body ≠ [] := by simp [sectionLines]
  rw [hlines, String.intercalate_append_of_ne_nil (by simp) hne, intercalate_sectionLines,
    ← String.toList_inj]
  simp [divider, separator]

/-- Appending a section adds its text behind those before it. -/
theorem joined_append {sections : List String} (h : sections ≠ []) (text : String) :
    joined (sections ++ [text]) = joined sections ++ divider ++ text := by
  rw [joined, String.intercalate_append_of_ne_nil h (by simp), String.intercalate_singleton]
  rfl

namespace Holds

variable {source : Source} {sections : List String}

/-- At the start there is no section. -/
theorem ofProlog (prolog : Option String) : Holds (ofProlog prolog) prolog.toList := by
  cases prolog with
  | none => exact ⟨rfl, by simp [Source.ofProlog, empty]⟩
  | some prolog =>
    refine ⟨?_, by simp [Source.ofProlog, empty, raw]⟩
    simp [Source.ofProlog, empty, raw, render, joined]

/-- Appending a section. The separator in front of it is left out exactly if it is the first. -/
theorem append (h : Holds source sections) (title : Option String) (body : String) :
    Holds (source.append title body) (sections ++ [titled title body]) := by
  have hne (first : Bool) : sectionLines first title body ≠ [] := by simp [sectionLines]
  refine ⟨?_, by simp [Source.append, hne]⟩
  -- a source looks at its lines, and there are lines as soon as there is a section
  by_cases hnil : sections = []
  · have hlines : source.lines = [] := h.lines_eq_nil_iff.mpr hnil
    rw [render, Source.append, hlines, hnil, List.isEmpty_nil, List.nil_append, List.nil_append,
      intercalate_sectionLines, joined, String.intercalate_singleton]
  · have hlines : source.lines ≠ [] := fun hlines => hnil (h.lines_eq_nil_iff.mp hlines)
    have hfirst : source.lines.isEmpty = false := List.isEmpty_eq_false_iff.mpr hlines
    rw [render, Source.append, hfirst, String.intercalate_append_of_ne_nil hlines (hne false),
      String.append_assoc, newline_append_sectionLines, joined_append hnil, ← String.append_assoc,
      ← h.render_eq, render]

/-- Appending sections for the blocks that exist. -/
theorem addBlocks (h : Holds source sections) (blocks : List (String × Option String)) :
    Holds (Shader.addBlocks blocks source)
      (sections ++ blocks.filterMap fun b => b.2.map (titled (some b.1))) := by
  induction blocks generalizing source sections with
  | nil => simpa [Shader.addBlocks] using h
  | cons b blocks ih =>
    obtain ⟨title, block?⟩ := b
    cases block? with
    | none => simpa [Shader.addBlocks] using ih h
    | some block => simpa [Shader.addBlocks] using ih (h.append (some title) block)

end Holds

end Source

namespace Pass

/-- The code of a stage as it is written. -/
def written? (p : Pass) : Stage → Option String
  | .vertex => p.vertexCode
  | .fragment => p.fragmentCode

/-- Code counts unless it is empty. -/
theorem code?_eq_some_iff {p : Pass} {stage : Stage} {code : String} :
    p.code? stage = some code ↔ p.written? stage = some code ∧ code ≠ "" := by
  cases stage <;> simp [code?, written?, Option.filter_eq_some_iff]

end Pass

namespace Shader

variable (s : Shader)

/-- The pass exists and has code for the stage that is not empty. -/
def Provides (stage : Stage) (pass : Nat) (code : String) : Prop :=
  ∃ p, s.passes[pass]? = some p ∧ p.written? stage = some code ∧ code ≠ ""

/-- The interface blocks that a source shows, with their titles. A stage sees what comes in and what
goes out with qualifiers; the whole program shows all blocks as they are written. -/
def shownBlocks : Option Stage → List (String × Option String)
  | none => [("Attributes", s.attributes?), ("Varyings", s.varyings?), ("Outputs", s.outputs?)]
  | some .vertex =>
    [("Attributes", s.attributes?.map (qualify · "in")),
      ("Varyings", s.varyings?.map (qualify · "out"))]
  | some .fragment =>
    [("Varyings", s.varyings?.map (qualify · "in")),
      ("Outputs", s.outputs?.map (qualify · "out"))]

/-- A line for each uniform array. -/
def uniformLines : List String :=
  s.uniformArrays.map fun a =>
    "uniform " ++ a.typeName ++ " " ++ a.name ++ "[" ++ Number.natText a.elements.length ++ "];"

/-- A line for each variable that is active and no uniform. -/
def globalLines : List String :=
  (s.vars.filter fun v => v.active && v.kind ≠ .uniform).map fun v =>
    v.typeName ++ " " ++ v.name ++ ";"

/-- The sections that come first in the source of a stage, or of the whole program: the prolog,
the declarations, the interface blocks and the common code. -/
def leadingSections (stage? : Option Stage) : List String :=
  s.prolog?.toList ++
    [Source.titled (some "Uniform arrays") ("\n".intercalate s.uniformLines),
      Source.titled (some "Non-uniform global variables") ("\n".intercalate s.globalLines)] ++
    (s.shownBlocks stage?).filterMap (fun b => b.2.map (Source.titled (some b.1))) ++
    [Source.titled none s.commonCode]

/-- What a pass provides is its code for the stage. -/
theorem provides_iff {s : Shader} {stage : Stage} {pass : Nat} {code : String} :
    s.Provides stage pass code ↔ (s.pass? pass).bind (·.code? stage) = some code := by
  simp only [Option.bind_eq_some_iff, pass?, Pass.code?_eq_some_iff, Provides]

/-- The section with the code of a pass. -/
def passSection (stage : Stage) (pass : Nat) (code : String) : String :=
  Source.titled (some ("Pass " ++ Number.natText pass ++ " " ++ stage.name)) code

/-! ## Sources -/

/-- The declarations are two sections: the uniform arrays and the global variables. -/
theorem holds_addDeclarations {source : Source} {sections : List String}
    (h : source.Holds sections) :
    (s.addDeclarations source).Holds (sections ++
      [Source.titled (some "Uniform arrays") ("\n".intercalate s.uniformLines),
        Source.titled (some "Non-uniform global variables") ("\n".intercalate s.globalLines)]) := by
  have hglobals : s.globals = s.vars.filter fun v => v.active && v.kind ≠ .uniform := by
    refine List.filter_congr fun v _ => ?_
    cases hkind : v.kind <;> simp [ShaderVariable.isGlobal, hkind]
  have hboth := (h.append (some "Uniform arrays") ("\n".intercalate s.uniformLines)).append
    (some "Non-uniform global variables") ("\n".intercalate s.globalLines)
  rw [List.append_assoc] at hboth
  rw [addDeclarations, hglobals]
  exact hboth

/-- What comes in front of the code of a pass. -/
theorem holds_assembleWith (stage? : Option Stage) :
    (s.assembleWith (s.shownBlocks stage?)).Holds (s.leadingSections stage?) := by
  rw [assembleWith_eq]
  have hstart := Source.Holds.ofProlog s.prolog?
  have hdeclared := s.holds_addDeclarations hstart
  have hblocks := (hdeclared.addBlocks (s.shownBlocks stage?)).append none s.commonCode
  simpa [leadingSections] using hblocks

/-- The common code of the published shader: the prolog, where it is no piece of its own, the
declarations, and the code for all stages. -/
theorem common_eq_joined :
    s.parts.common = Source.joined
      ((if s.interfaces.isEmpty then s.prolog? else none).toList ++
        [Source.titled (some "Uniform arrays") ("\n".intercalate s.uniformLines),
          Source.titled (some "Non-uniform global variables") ("\n".intercalate s.globalLines),
          Source.titled none s.commonCode]) := by
  have hcommon : s.parts.common =
      ((s.addDeclarations
        (Source.ofProlog (if s.interfaces.isEmpty then s.prolog? else none))).append none
          s.commonCode).render := by
    cases hempty : s.interfaces.isEmpty with
    | true => exact s.common_of_isEmpty hempty
    | false => exact s.common_of_not_isEmpty hempty
  have hstart := Source.Holds.ofProlog (if s.interfaces.isEmpty then s.prolog? else none)
  have hall := (s.holds_addDeclarations hstart).append none s.commonCode
  rw [hcommon, hall.render_eq, List.append_assoc]
  rfl

/-- A source of a stage shows the interface blocks that the stage sees. -/
theorem map_interfaceBlocks (stage : Stage) :
    (s.interfaceBlocks stage).map (fun b => (b.title, b.qualified?)) =
      s.shownBlocks (some stage) := by
  cases stage <;> rfl

/-- The source of a stage. -/
theorem holds_stageSource (stage : Stage) (pass : Nat) (code : String) :
    (s.stageSource stage pass code).Holds
      (s.leadingSections (some stage) ++ [passSection stage pass code]) := by
  rw [stageSource, map_interfaceBlocks]
  exact (s.holds_assembleWith (some stage)).append _ code

/-! ## Outcomes -/

variable {s}

/-- With distinct uniform arrays a stage is assembled if its pass has code for it. -/
theorem assemble_stage_of_provides (h : s.checkUniformArrays = .ok ()) {stage : Stage} {pass : Nat}
    {code : String} (hcode : s.Provides stage pass code) :
    s.assemble (.stage stage pass) =
      .ok (Source.joined (s.leadingSections (some stage) ++ [passSection stage pass code])) := by
  rw [← (s.holds_stageSource stage pass code).render_eq, assemble_stage_eq_ok_iff]
  exact ⟨h, code, provides_iff.mp hcode, rfl⟩

end Shader

end DemoBuild
