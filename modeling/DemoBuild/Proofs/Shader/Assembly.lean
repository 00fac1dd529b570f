import DemoBuild.Proofs.Number.Text
import DemoBuild.Proofs.Shader.UniformArrays
import DemoBuild.Proofs.Text.Lines
import DemoBuild.Shader.Assembly

/-!
# What is validated is what is published

The source of a stage that the validator sees and the pieces that a published demo joins while it
runs are put together in different ways. Both are compared by their significant lines: what is left
of a text without empty lines, separators and titles. A section adds the significant lines of its
body, so both come down to the significant lines of the prolog, the declarations, the interface, the
common code and the code of the pass.

## Main definitions

* `Source.significant`: the significant lines of a text;
* `Parts.pieces`: what a published demo joins for a stage of a pass.

## Main results

* `Source.significant_append`: what a section adds;
* `Shader.interfaces_get_eq_join`: both ways hand a stage the same declarations;
* `Shader.significant_interface`: the interface of a stage holds the lines of its blocks;
* `Shader.significant_stageSource` and `Shader.significant_pieces`: the two ways;
* `Shader.assemble_stage_published`: where they agree, and where the prolog goes.
-/

namespace DemoBuild

namespace Source

/-- The line is empty, a separator, or the title of a section. -/
def isMarkup (line : List Char) : Bool :=
  line == [] || line == separator.toList || "// ".toList.isPrefixOf line

/-- The lines of a text that are no markup. -/
def significant (text : String) : List (List Char) :=
  (Text.lines text).filter fun line => !isMarkup line

/-- A line break separates the significant lines. -/
theorem significant_append_newline (a b : String) :
    significant (a ++ "\n" ++ b) = significant a ++ significant b := by
  rw [significant, Text.lines_append_newline, List.filter_append]
  rfl

/-- The empty text has no significant lines. -/
@[simp]
theorem significant_empty : significant "" = [] := by
  decide

/-- A separator is not significant. -/
@[simp]
theorem significant_separator : significant separator = [] := by
  decide

/-- A title is not significant. -/
theorem significant_title {title : String} (htitle : '\n' ∉ title.toList) :
    significant ("// " ++ title) = [] := by
  have hline : '\n' ∉ ("// " ++ title).toList := by
    rw [String.toList_append, List.mem_append]
    exact fun h => h.elim (by decide) htitle
  have hmarkup : isMarkup ("// " ++ title).toList = true := by
    rw [isMarkup, String.toList_append, Bool.or_eq_true]
    exact .inr (List.isPrefixOf_iff_prefix.mpr (List.prefix_append _ _))
  rw [significant, Text.lines_of_not_mem hline, List.filter_cons_of_neg (by rw [hmarkup]; decide),
    List.filter_nil]

/-- Joined texts have the significant lines of the texts. -/
theorem significant_intercalate (texts : List String) :
    significant ("\n".intercalate texts) = texts.flatMap significant := by
  cases texts with
  | nil => simp
  | cons text texts =>
    rw [significant, Text.lines_intercalate (List.cons_ne_nil _ _), List.filter_flatMap]
    rfl

/-- The significant lines of a source are those of its lines. -/
theorem significant_render (s : Source) : significant s.render = s.lines.flatMap significant :=
  significant_intercalate s.lines

/-- A section behind others starts with a separator. -/
theorem render_append {s : Source} (hs : s.lines ≠ []) (title body : String) :
    (s.append (some title) body).render =
      s.render ++ "\n\n" ++ separator ++ "\n// " ++ title ++ "\n\n" ++ body := by
  have hfirst : s.lines.isEmpty = false := by rwa [List.isEmpty_eq_false_iff]
  rw [render, append, hfirst, String.intercalate_append_of_ne_nil hs (by simp [sectionLines]),
    ← String.toList_inj]
  simp [sectionLines, render]

/-- A section adds the significant lines of its body. -/
theorem significant_append (s : Source) {title : Option String}
    (htitle : ∀ t ∈ title, '\n' ∉ t.toList) (body : String) :
    significant (s.append title body).render = significant s.render ++ significant body := by
  have hsection : (sectionLines s.lines.isEmpty title body).flatMap significant =
      significant body := by
    rw [sectionLines]
    cases title with
    | none => split <;> simp
    | some t => split <;> simp [significant_title (htitle t rfl)]
  rw [significant_render, significant_render, append, List.flatMap_append, hsection]

/-- Text without a section of its own. -/
theorem significant_raw_empty (text : String) :
    significant (empty.raw text).render = significant text := by
  simp [significant_render, raw, empty]

/-- The source in front of the declarations. -/
def ofProlog : Option String → Source
  | some prolog => empty.raw prolog
  | none => empty

/-- The source in front of the declarations has the significant lines of the prolog. -/
theorem significant_ofProlog (prolog : Option String) :
    significant (ofProlog prolog).render = prolog.toList.flatMap significant := by
  cases prolog with
  | none => rfl
  | some prolog => simp [ofProlog, significant_raw_empty]

/-- Sections for blocks add the significant lines of the blocks that exist. -/
theorem significant_addBlocks {blocks : List (String × Option String)}
    (htitles : ∀ b ∈ blocks, '\n' ∉ b.1.toList) (s : Source) :
    significant (Shader.addBlocks blocks s).render =
      significant s.render ++ (blocks.filterMap Prod.snd).flatMap significant := by
  induction blocks generalizing s with
  | nil => simp [Shader.addBlocks]
  | cons b blocks ih =>
    obtain ⟨title, block?⟩ := b
    obtain ⟨htitle, hrest⟩ := List.forall_mem_cons.mp htitles
    cases block? with
    | none => simpa [Shader.addBlocks] using ih hrest s
    | some block =>
      have hline : ∀ t ∈ some title, '\n' ∉ t.toList := by simpa using htitle
      have hsection := significant_append s hline block
      have hblocks := ih hrest (s.append (some title) block)
      rw [hsection] at hblocks
      simpa [Shader.addBlocks] using hblocks

end Source

/-! ## Interfaces -/

/-- The text is empty or ends with a line break. -/
def EndsLine (text : String) : Prop :=
  text = "" ∨ ∃ start, text = start ++ "\n"

/-- Behind the end of a line the significant lines of a text begin. -/
theorem EndsLine.significant_append {a : String} (ha : EndsLine a) (b : String) :
    Source.significant (a ++ b) = Source.significant a ++ Source.significant b := by
  obtain rfl | ⟨start, rfl⟩ := ha
  · simp
  · have hstart := Source.significant_append_newline start ""
    rw [String.append_empty, Source.significant_empty, List.append_nil] at hstart
    rw [Source.significant_append_newline, hstart]

/-- Qualified declarations are whole lines. -/
theorem endsLine_qualify (block qualifier : String) : EndsLine (qualify block qualifier) := by
  rw [qualify]
  rcases List.eq_nil_or_concat (Declaration.findAll block.toList) with hnone | ⟨ds, d, hsome⟩
  · exact .inl (by rw [hnone]; rfl)
  -- the line break behind the last declaration ends the text
  · refine .inr ⟨String.ofList (ds.flatMap (Declaration.qualified qualifier.toList) ++
      (qualifier.toList ++ ' ' :: d.text)), ?_⟩
    rw [hsome, ← String.toList_inj]
    simp [Declaration.qualified]

/-- Whole lines joined have the significant lines of all of them. -/
theorem significant_join {texts : List String} (htexts : ∀ t ∈ texts, EndsLine t) :
    Source.significant (String.join texts) = texts.flatMap Source.significant := by
  induction texts with
  | nil => exact Source.significant_empty
  | cons text texts ih =>
    obtain ⟨htext, hrest⟩ := List.forall_mem_cons.mp htexts
    rw [String.join_cons, htext.significant_append, ih hrest, List.flatMap_cons]

/-- What a published demo joins for a stage of a pass with the given code, in its order. -/
def Parts.pieces (p : Parts) (stage : Stage) (code : String) : List String :=
  p.prolog.toList ++ [p.interfaces.get stage, p.common, code]

namespace Shader

variable (s : Shader)

/-- The declarations that a stage of a published demo gets are those of the blocks in the source of
the stage. -/
theorem interfaces_get_eq_join (stage : Stage) :
    s.interfaces.get stage =
      String.join ((s.interfaceBlocks stage).filterMap InterfaceBlock.qualified?) := by
  -- on both sides a block that does not exist adds nothing
  cases stage with
  | vertex => cases ha : s.attributes? <;> cases hv : s.varyings? <;>
      simp [interfaces, Interfaces.get, interfaceBlocks, List.filterMap_cons,
        InterfaceBlock.qualified?, ha, hv]
  | fragment => cases hv : s.varyings? <;> cases ho : s.outputs? <;>
      simp [interfaces, Interfaces.get, interfaceBlocks, List.filterMap_cons,
        InterfaceBlock.qualified?, hv, ho]

/-- The interface of a stage has the significant lines of the blocks that it sees. -/
theorem significant_interface (stage : Stage) :
    Source.significant (s.interfaces.get stage) =
      ((s.interfaceBlocks stage).filterMap InterfaceBlock.qualified?).flatMap
        Source.significant := by
  rw [interfaces_get_eq_join]
  refine significant_join fun text htext => ?_
  obtain ⟨block, -, hblock⟩ := List.mem_filterMap.mp htext
  obtain ⟨code, -, rfl⟩ := Option.map_eq_some_iff.mp hblock
  exact endsLine_qualify code block.qualifier

/-- The titles of the blocks are single lines. -/
theorem newline_not_mem_title {stage : Stage} {block : InterfaceBlock}
    (hblock : block ∈ s.interfaceBlocks stage) : '\n' ∉ block.title.toList := by
  cases stage <;>
  · simp only [interfaceBlocks, List.mem_cons, List.not_mem_nil, or_false] at hblock
    rcases hblock with rfl | rfl <;> dsimp only <;> decide

/-! ## Declarations -/

/-- The declarations of the uniform arrays and of the global variables. -/
def declarationLines : List String :=
  s.uniformArrays.map uniformLine ++ s.globals.map globalLine

/-- The declarations add their significant lines. -/
theorem significant_addDeclarations (source : Source) :
    Source.significant (s.addDeclarations source).render =
      Source.significant source.render ++ s.declarationLines.flatMap Source.significant := by
  have htitle (title : String) (h : '\n' ∉ title.toList) : ∀ t ∈ some title, '\n' ∉ t.toList :=
    fun t ht => Option.some.inj ht ▸ h
  rw [addDeclarations, Source.significant_append _ (htitle _ (by decide)),
    Source.significant_append _ (htitle _ (by decide)), Source.significant_intercalate,
    Source.significant_intercalate, declarationLines, List.flatMap_append, List.append_assoc]

/-! ## The two ways -/

/-- The significant lines of the prolog; none if it is blank. -/
def prologLines : List (List Char) :=
  s.prolog?.toList.flatMap Source.significant

/-- What the source of a stage starts with. -/
theorem assembleWith_eq (blocks : List (String × Option String)) :
    s.assembleWith blocks =
      (addBlocks blocks (s.addDeclarations (Source.ofProlog s.prolog?))).append none
        s.commonCode := by
  rw [assembleWith]
  cases s.prolog? <;> rfl

/-- Without interface declarations the common code starts with the prolog. -/
theorem common_of_isEmpty (hempty : s.interfaces.isEmpty = true) :
    s.parts.common =
      ((s.addDeclarations (Source.ofProlog s.prolog?)).append none s.commonCode).render := by
  simp only [parts, hempty, if_true]
  cases s.prolog? <;> rfl

/-- With interface declarations the common code starts with the declarations. -/
theorem common_of_not_isEmpty (hempty : s.interfaces.isEmpty = false) :
    s.parts.common = ((s.addDeclarations Source.empty).append none s.commonCode).render := by
  simp only [parts, hempty, Bool.false_eq_true, if_false]

/-- The source of a stage: the prolog, the declarations, the interface, the common code and the code
of the pass. -/
theorem significant_stageSource (stage : Stage) (pass : Nat) (code : String) :
    Source.significant (s.stageSource stage pass code).render =
      s.prologLines ++ s.declarationLines.flatMap Source.significant ++
        Source.significant (s.interfaces.get stage) ++ Source.significant s.commonCode ++
          Source.significant code := by
  have hpass : ∀ t ∈ some ("Pass " ++ Number.natText pass ++ " " ++ stage.name),
      '\n' ∉ t.toList := by
    intro t ht
    obtain rfl := Option.some.inj ht
    have hnumber := Number.newline_not_mem_natText pass
    have hname : '\n' ∉ stage.name.toList := by cases stage <;> decide
    simp [hnumber, hname]
  have htitles : ∀ b ∈ (s.interfaceBlocks stage).map fun b => (b.title, b.qualified?),
      '\n' ∉ b.1.toList := by
    intro b hb
    obtain ⟨block, hblock, rfl⟩ := List.mem_map.mp hb
    exact s.newline_not_mem_title hblock
  rw [stageSource, Source.significant_append _ hpass, assembleWith_eq,
    Source.significant_append _ (by simp), Source.significant_addBlocks htitles,
    significant_addDeclarations, Source.significant_ofProlog, significant_interface,
    List.filterMap_map]
  rfl

/-- Without interface declarations a prolog stands in front of the common code. -/
theorem significant_common_of_isEmpty (hempty : s.interfaces.isEmpty = true) :
    Source.significant s.parts.common =
      s.prologLines ++ s.declarationLines.flatMap Source.significant ++
        Source.significant s.commonCode := by
  rw [common_of_isEmpty s hempty, Source.significant_append _ (by simp),
    significant_addDeclarations, Source.significant_ofProlog, prologLines]

/-- With interface declarations the common code has no prolog. -/
theorem significant_common_of_not_isEmpty (hempty : s.interfaces.isEmpty = false) :
    Source.significant s.parts.common =
      s.declarationLines.flatMap Source.significant ++ Source.significant s.commonCode := by
  rw [common_of_not_isEmpty s hempty, Source.significant_append _ (by simp),
    significant_addDeclarations]
  rfl

/-- The prolog is a piece of its own unless there are no interface declarations. -/
theorem prolog_parts :
    s.parts.prolog = if s.interfaces.isEmpty then none else s.prolog? :=
  rfl

/-- The interfaces of a published demo are those of the shader. -/
@[simp]
theorem interfaces_parts : s.parts.interfaces = s.interfaces :=
  rfl

/-- Interface texts are empty together with what they are made of. -/
theorem interface_eq_of_isEmpty (hempty : s.interfaces.isEmpty = true) (stage : Stage) :
    s.interfaces.get stage = "" := by
  rw [Interfaces.isEmpty, Bool.and_eq_true, beq_iff_eq, beq_iff_eq] at hempty
  cases stage
  · exact hempty.1
  · exact hempty.2

/-- The pieces of a published demo: the prolog, the interface, the declarations, the common code and
the code of the pass. -/
theorem significant_pieces (stage : Stage) (code : String) :
    (s.parts.pieces stage code).flatMap Source.significant =
      s.prologLines ++ Source.significant (s.interfaces.get stage) ++
        s.declarationLines.flatMap Source.significant ++ Source.significant s.commonCode ++
          Source.significant code := by
  have hpieces : (s.parts.pieces stage code).flatMap Source.significant =
      s.parts.prolog.toList.flatMap Source.significant ++
        Source.significant (s.interfaces.get stage) ++ Source.significant s.parts.common ++
          Source.significant code := by
    rw [Parts.pieces, interfaces_parts]
    simp
  rw [hpieces, prolog_parts]
  cases hempty : s.interfaces.isEmpty with
  | true =>
    -- the prolog has moved behind the interface, which is empty
    rw [significant_common_of_isEmpty s hempty, interface_eq_of_isEmpty s hempty]
    simp
  | false =>
    rw [significant_common_of_not_isEmpty s hempty]
    simp [prologLines]

/-- The source of a stage exists if no two uniform arrays share a type and the pass has code for the
stage. -/
theorem assemble_stage_eq_ok_iff {stage : Stage} {pass : Nat} {text : String} :
    s.assemble (.stage stage pass) = .ok text ↔
      s.checkUniformArrays = .ok () ∧
        ∃ code, (s.pass? pass).bind (·.code? stage) = some code ∧
          (s.stageSource stage pass code).render = text := by
  rw [assemble, stageCode]
  cases s.checkUniformArrays with
  | error e =>
    constructor
    · intro h
      cases h
    · rintro ⟨h, -⟩
      cases h
  | ok u =>
    cases (s.pass? pass).bind (·.code? stage) with
    | none =>
      constructor
      · intro h
        cases h
      · rintro ⟨-, code, h, -⟩
        cases h
    | some code =>
      constructor
      · intro h
        exact ⟨rfl, code, rfl, Except.ok.inj h⟩
      · rintro ⟨-, code', hcode, rfl⟩
        obtain rfl := Option.some.inj hcode
        rfl

/-- With distinct uniform arrays the source of a stage is missing exactly if its code is. -/
theorem assemble_stage_eq_missing_iff (htypes : (s.uniformArrays.map (·.typeName)).Nodup)
    {stage : Stage} {pass : Nat} :
    s.assemble (.stage stage pass) = .error (.missingStageCode pass stage) ↔
      (s.pass? pass).bind (·.code? stage) = none := by
  rw [assemble, stageCode, s.checkUniformArrays_eq_ok_iff.mpr htypes]
  cases (s.pass? pass).bind (·.code? stage) with
  | none => exact ⟨fun _ => rfl, fun _ => rfl⟩
  | some code =>
    constructor
    · intro h
      cases h
    · intro h
      cases h

/-- In front of common code that holds the prolog nothing else stands. -/
theorem exists_common_eq {prolog : String} (hprolog : s.prolog? = some prolog)
    (hempty : s.interfaces.isEmpty = true) :
    ∃ rest, s.parts.common = prolog ++ "\n" ++ rest := by
  rw [common_of_isEmpty s hempty, hprolog]
  exact ⟨_, String.intercalate_cons_of_ne_nil (by simp [addDeclarations, Source.append,
    Source.sectionLines])⟩

/-- Without interface blocks the source of a stage is the common code and a section with the code of
the pass. -/
theorem stageSource_of_blocks_eq_none (hattributes : s.attributes? = none)
    (hvaryings : s.varyings? = none) (houtputs : s.outputs? = none) (stage : Stage) (pass : Nat)
    (code : String) :
    (s.stageSource stage pass code).render =
      s.parts.common ++ "\n\n" ++ Source.separator ++ "\n// Pass " ++ Number.natText pass ++ " " ++
        stage.name ++ "\n\n" ++ code := by
  have hempty : s.interfaces.isEmpty = true := by
    simp [Interfaces.isEmpty, interfaces, hattributes, hvaryings, houtputs]
  have hblocks (source : Source) : addBlocks
      ((s.interfaceBlocks stage).map fun b => (b.title, b.qualified?)) source = source := by
    cases stage <;>
      simp [addBlocks, interfaceBlocks, InterfaceBlock.qualified?, hattributes, hvaryings, houtputs]
  rw [stageSource, assembleWith_eq, hblocks,
    Source.render_append (by simp [Source.append, Source.sectionLines]), common_of_isEmpty s hempty,
    ← String.toList_inj]
  simp only [String.toList_append, List.append_assoc]
  rfl

/-- What the validator sees of a stage of a pass and what a published demo joins for it have the
same significant lines, but the declarations of the published demo follow the interface. The
published prolog is a piece of its own exactly if some stage has interface declarations; otherwise
both have the same lines in the same order. Without interface blocks the validator sees the common
code itself, followed by a section for the pass. -/
theorem assemble_stage_published (s : Shader) (stage : Stage) (pass : Nat) (text : String)
    (hassemble : s.assemble (.stage stage pass) = .ok text) :
    ∃ code, (s.pass? pass).bind (·.code? stage) = some code ∧
      Source.significant text =
        s.prolog?.toList.flatMap Source.significant ++
          s.declarationLines.flatMap Source.significant ++
          Source.significant (s.parts.interfaces.get stage) ++ Source.significant s.commonCode ++
          Source.significant code ∧
      (s.parts.pieces stage code).flatMap Source.significant =
        s.prolog?.toList.flatMap Source.significant ++
          Source.significant (s.parts.interfaces.get stage) ++
          s.declarationLines.flatMap Source.significant ++ Source.significant s.commonCode ++
          Source.significant code ∧
      (∀ prolog ∈ s.prolog?,
        (s.parts.prolog = none ↔
          s.parts.interfaces.vertex = "" ∧ s.parts.interfaces.fragment = "") ∧
        (s.parts.prolog = none →
          (∃ rest, s.parts.common = prolog ++ "\n" ++ rest) ∧
            Source.significant text = (s.parts.pieces stage code).flatMap Source.significant) ∧
        (s.parts.prolog ≠ none →
          s.parts.prolog = some prolog ∧
            Source.significant s.parts.common =
              s.declarationLines.flatMap Source.significant ++
                Source.significant s.commonCode)) ∧
      (s.attributes? = none → s.varyings? = none → s.outputs? = none →
        text = s.parts.common ++ "\n\n" ++ Source.separator ++ "\n// Pass " ++
          Number.natText pass ++ " " ++ stage.name ++ "\n\n" ++ code) := by
  obtain ⟨-, code, hcode, rfl⟩ := s.assemble_stage_eq_ok_iff.mp hassemble
  have hisEmpty : s.interfaces.isEmpty = true ↔
      s.interfaces.vertex = "" ∧ s.interfaces.fragment = "" := by
    simp [Interfaces.isEmpty]
  have hsource := s.significant_stageSource stage pass code
  have hpieces := s.significant_pieces stage code
  rw [prologLines] at hsource hpieces
  rw [interfaces_parts]
  refine ⟨code, hcode, hsource, hpieces, fun prolog hprolog => ?_, fun ha hv ho =>
    s.stageSource_of_blocks_eq_none ha hv ho stage pass code⟩
  rw [prolog_parts, ← hisEmpty]
  cases hempty : s.interfaces.isEmpty with
  | true =>
    -- nothing stands between the prolog and the declarations, in either order
    refine ⟨by simp, fun _ => ⟨s.exists_common_eq hprolog hempty, ?_⟩, fun h => absurd rfl h⟩
    rw [hsource, hpieces, interface_eq_of_isEmpty s hempty]
    simp
  | false =>
    obtain hprolog : s.prolog? = some prolog := hprolog
    refine ⟨by simp [hprolog], fun h => ?_, fun _ => ⟨hprolog, ?_⟩⟩
    · simp [hprolog] at h
    · exact significant_common_of_not_isEmpty s hempty

/-- A shader with a prolog, interface blocks and code for a vertex stage. -/
theorem assemble_stage_published_vertex :
    let s : Shader :=
      { prologCode := some "#version 450", commonCode := "float zero;"
        attributesCode := some "vec2 position;", varyingsCode := some "vec2 uv;"
        passes := [{ vertexCode := some "uv = position;" }] }
    ∃ text, s.assemble (.stage .vertex 0) = .ok text ∧
      ∃ code, (s.pass? 0).bind (·.code? .vertex) = some code ∧
        Source.significant text =
          s.prolog?.toList.flatMap Source.significant ++
            s.declarationLines.flatMap Source.significant ++
            Source.significant (s.parts.interfaces.get .vertex) ++
            Source.significant s.commonCode ++ Source.significant code := by
  intro s
  refine ⟨_, rfl, ?_⟩
  obtain ⟨code, hcode, hsource, -⟩ := assemble_stage_published s .vertex 0 _ rfl
  exact ⟨code, hcode, hsource⟩

end Shader

end DemoBuild
