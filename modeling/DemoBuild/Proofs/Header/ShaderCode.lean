import DemoBuild.Header.Data
import DemoBuild.Proofs.Header.CText
import DemoBuild.Proofs.Shader.Assembly

/-!
# Reading the code of a shader back

The lines for the code of a shader are read as C text: what is defined are the pieces of the
published shader and a table with an entry for each stage of each pass. Whatever the code of the
shader looks like, it stays inside its literals, so every entry stands at its place.

## Main definitions

* `DemoData.shaderDefinitions` and `DemoData.shaderDirectives`: what the lines are read as;
* `DemoData.passCodes` and `DemoData.entryIndex`: the entries of the table, and their places.

## Main results

* `DemoData.reads_shaderLines`: the lines are read as that;
* `DemoData.passCodes_getElem?`: the entry for a stage of a pass;
* `DemoData.mem_shaderDirectives_passDirective`: which entries have a macro;
* `DemoData.shaderText_decode`: the header holds the shader that it was generated from.
-/

namespace DemoBuild.DemoData

open CText
open StringLiteral (quote)

/-! ## Single lines -/

/-- What definitions start with. -/
theorem lex?_keywords (line : List Char) :
    lex? ("static const char *".toList ++ line) = (lex? line).map (keywords ++ ·) := by
  have hwords : "static const char *".toList ++ line =
      "static".toList ++ ' ' :: ("const".toList ++ ' ' :: ("char".toList ++ ' ' :: '*' :: line)) :=
    rfl
  rw [hwords, lex?_word_space (by decide) (by decide), lex?_word_space (by decide) (by decide),
    lex?_word_space (by decide) (by decide), lex?_mark (by decide) (by decide) (by decide)]
  simp [Function.comp_def, keywords]

/-- The line that opens the table of codes. -/
theorem reads_tableStart :
    Reads (Text.lines "static const char *shaderPassCodes[] = \x7b") []
      (keywords ++ [.word "shaderPassCodes".toList, .mark '[', .mark ']', .mark '=',
        .mark '\x7b']) := by
  have hline : "static const char *shaderPassCodes[] = \x7b".toList =
      "static const char *".toList ++ ("shaderPassCodes".toList ++
        '[' :: ']' :: ' ' :: '=' :: ' ' :: ['\x7b']) := rfl
  rw [Text.lines_of_not_mem (by decide)]
  refine .line rfl ?_
  rw [hline, lex?_keywords, lex?_word (by decide) (by decide) (by decide),
    lex?_mark (by decide) (by decide) (by decide), lex?_mark (by decide) (by decide) (by decide),
    lex?_space, lex?_mark (by decide) (by decide) (by decide), lex?_space,
    lex?_mark (by decide) (by decide) (by decide), lex?_nil]
  rfl

/-- The line that closes the table of codes. -/
theorem reads_tableEnd :
    Reads (Text.lines "\x7d;") [] [.mark '\x7d', .mark ';'] := by
  have hline : "\x7d;".toList = ['\x7d', ';'] := rfl
  rw [Text.lines_of_not_mem (by decide), hline]
  refine .line rfl ?_
  rw [lex?_mark (by decide) (by decide) (by decide), lex?_mark (by decide) (by decide) (by decide),
    lex?_nil]
  rfl

/-- The line for an entry that is missing. -/
theorem reads_nullptr : Reads (Text.lines "nullptr,") [] (missing ++ [.mark ',']) := by
  have hline : "nullptr,".toList = "nullptr".toList ++ [','] := rfl
  rw [Text.lines_of_not_mem (by decide), hline]
  refine .line rfl ?_
  rw [lex?_word (by decide) (by decide) (by decide), lex?_mark (by decide) (by decide) (by decide),
    lex?_nil]
  rfl

/-- An empty line. -/
theorem reads_empty : Reads (Text.lines "") [] [] := by
  rw [Text.lines_of_not_mem (by decide)]
  exact .line rfl lex?_nil

/-- A directive. -/
theorem reads_directive {line : String} (hline : '\n' ∉ line.toList)
    (hstart : line.toList.head? = some '#') : Reads (Text.lines line) [line.toList] [] := by
  rw [Text.lines_of_not_mem hline]
  exact .directive (by simp [isDirective, hstart])

/-- The lines that define a text. -/
theorem reads_definition {symbol : String} (hsymbol : symbol.toList ≠ [])
    (hword : symbol.toList.all isWordChar = true) (code : String) :
    Reads
      (Text.lines ("static const char *" ++ symbol ++ " = " ++ StringLiteral.render code ++ ";")) []
      ((Definition.text symbol code).tokens ++ [.mark ';']) := by
  have hnewline : '\n' ∉ symbol.toList :=
    fun h => absurd (List.all_eq_true.mp hword _ h) (by decide)
  have hfirst (text line : List Char) :
      lex? (("static const char *" ++ symbol ++ " = ").toList ++ (quote text ++ line)) =
        (lex? line).map fun tokens =>
          keywords ++ [.word symbol.toList, .mark '='] ++ .literal text :: tokens := by
    have hline : ("static const char *" ++ symbol ++ " = ").toList ++ (quote text ++ line) =
        "static const char *".toList ++ (symbol.toList ++ ' ' :: '=' :: ' ' ::
          (quote text ++ line)) := by
      simp
    rw [hline, lex?_keywords, lex?_word_space hsymbol hword,
      lex?_mark (by decide) (by decide) (by decide), lex?_space, lex?_quote]
    simp [Function.comp_def]
  have hlast : lex? ";".toList = some [.mark ';'] := by
    rw [show ";".toList = [';'] from rfl, lex?_mark (by decide) (by decide) (by decide), lex?_nil]
    rfl
  have hreads := reads_render code (by simp [hnewline]) (by simp) hfirst (by decide) hlast
  simpa [Definition.tokens] using hreads

/-- The lines of an entry of the table. -/
theorem reads_entry (code : String) :
    Reads (Text.lines (StringLiteral.render code ++ ",")) [] (literals code ++ [.mark ',']) := by
  have hlast : lex? ",".toList = some [.mark ','] := by
    rw [show ",".toList = [','] from rfl, lex?_mark (by decide) (by decide) (by decide), lex?_nil]
    rfl
  have hreads := @reads_render "" "," [] _ code (by decide) (by decide)
    (fun text line => lex?_quote text line) (by decide) hlast
  simpa using hreads

/-! ## Groups of lines -/

/-- The directive for a text that may be missing. -/
def codeDirectives (macroName : String) (code : Option String) : List (List Char) :=
  code.toList.map fun _ => ("#define " ++ macroName).toList

/-- The definition of a text that may be missing. -/
def codeDefinitions (symbol : String) (code : Option String) : List Definition :=
  code.toList.map (.text symbol)

/-- Definitions with a semicolon behind each. -/
def statements (ds : List Definition) : List Token :=
  ds.flatMap fun d => d.tokens ++ [.mark ';']

/-- The directive for a stage of a pass that has code. -/
def passDirective (index : Nat) (stage : Stage) : String :=
  "#define HAS_SHADER_PASS_" ++ Number.natText index ++ "_" ++ stage.macroName ++ "_CODE"

/-- The directive for the number of passes. -/
def countDirective (count : Nat) : String :=
  "#define PASS_COUNT " ++ Number.natText count

/-- The directives for the stages of passes. -/
def passDirectives (passes : List (Pass × Nat)) : List (List Char) :=
  passes.flatMap fun p => Stage.all.flatMap fun stage =>
    (p.1.code? stage).toList.map fun _ => (passDirective p.2 stage).toList

/-- The lines that define a text and say that it exists. -/
theorem reads_codeLines {macroName symbol : String} (hmacroName : '\n' ∉ macroName.toList)
    (hsymbol : symbol.toList ≠ []) (hword : symbol.toList.all isWordChar = true)
    (code : String) :
    Reads ((codeLines macroName symbol code).flatMap Text.lines)
      (codeDirectives macroName (some code)) (statements (codeDefinitions symbol (some code))) := by
  have hdirective : Reads (Text.lines ("#define " ++ macroName))
      [("#define " ++ macroName).toList] [] :=
    reads_directive (by simp [hmacroName]) (by simp)
  have hreads := hdirective.append ((reads_definition hsymbol hword code).append reads_empty)
  simpa [codeLines, codeDirectives, statements, codeDefinitions] using hreads

/-- The lines for a text that may be missing. -/
theorem reads_optionalCodeLines {macroName symbol : String} (hmacroName : '\n' ∉ macroName.toList)
    (hsymbol : symbol.toList ≠ []) (hword : symbol.toList.all isWordChar = true)
    (code : Option String) :
    Reads ((optionalCodeLines macroName symbol code).flatMap Text.lines)
      (codeDirectives macroName code) (statements (codeDefinitions symbol code)) := by
  cases code with
  | none => exact .nil
  | some code => exact reads_codeLines hmacroName hsymbol hword code

/-- The directive for a stage of a pass is a directive. -/
theorem reads_passDirective (index : Nat) (stage : Stage) :
    Reads (Text.lines (passDirective index stage)) [(passDirective index stage).toList] [] := by
  have hnumber := Number.newline_not_mem_natText index
  have hstage : '\n' ∉ stage.macroName.toList := by cases stage <;> decide
  refine reads_directive ?_ ?_
  · unfold passDirective
    simp [hnumber, hstage]
  · unfold passDirective
    simp

/-- The directive for the number of passes is a directive. -/
theorem reads_countDirective (count : Nat) :
    Reads (Text.lines (countDirective count)) [(countDirective count).toList] [] := by
  refine reads_directive ?_ ?_
  · unfold countDirective
    simp [Number.newline_not_mem_natText]
  · unfold countDirective
    simp

/-- The lines for a stage of a pass. -/
theorem reads_stageLines (index : Nat) (p : Pass) (stage : Stage) :
    Reads ((stageLines index p stage).flatMap Text.lines)
      ((p.code? stage).toList.map fun _ => (passDirective index stage).toList)
      (entryTokens (p.code? stage) ++ [.mark ',']) := by
  rw [stageLines]
  cases p.code? stage with
  | none => simpa [entryTokens] using reads_nullptr
  | some code =>
    have hreads := (reads_passDirective index stage).append (reads_entry code)
    unfold passDirective at hreads ⊢
    simpa [entryTokens] using hreads

/-- The lines for passes: the entries of the table. -/
theorem reads_passLines (passes : List (Pass × Nat)) :
    Reads ((passes.flatMap passLines).flatMap Text.lines) (passDirectives passes)
      ((passes.flatMap fun p => Stage.all.map p.1.code?).flatMap fun entry =>
        entryTokens entry ++ [.mark ',']) := by
  rw [List.flatMap_assoc, List.flatMap_assoc]
  refine .flatMap fun p _ => ?_
  rw [passLines, List.flatMap_assoc, List.flatMap_map]
  exact .flatMap fun stage _ => reads_stageLines p.2 p.1 stage

/-! ## All lines -/

/-- The codes of all stages of all passes. -/
def passCodes (s : Shader) : List (Option String) :=
  s.passes.flatMap fun p => Stage.all.map p.code?

/-- What the lines for the code of a shader define. -/
def shaderDefinitions (s : Shader) : List Definition :=
  codeDefinitions "shaderPrologCode" s.parts.prolog ++
    codeDefinitions "shaderVertexSpecificCode" (interfaceCode s.parts .vertex) ++
    codeDefinitions "shaderFragmentSpecificCode" (interfaceCode s.parts .fragment) ++
    [.text "shaderCommonCode" s.parts.common, .table "shaderPassCodes" (passCodes s)]

/-- The directives for the pieces of the published shader. -/
def partDirectives (s : Shader) : List (List Char) :=
  codeDirectives "HAS_SHADER_PROLOG_CODE" s.parts.prolog ++
    codeDirectives "HAS_SHADER_VERTEX_SPECIFIC_CODE" (interfaceCode s.parts .vertex) ++
    codeDirectives "HAS_SHADER_FRAGMENT_SPECIFIC_CODE" (interfaceCode s.parts .fragment) ++
    codeDirectives "HAS_SHADER_COMMON_CODE" (some s.parts.common)

/-- The directives among the lines for the code of a shader. -/
def shaderDirectives (s : Shader) : List (List Char) :=
  partDirectives s ++ (countDirective s.passes.length).toList :: passDirectives s.passes.zipIdx

/-- The lines for the code of a shader. -/
theorem reads_shaderLines (s : Shader) :
    Reads ((shaderLines s).flatMap Text.lines) (shaderDirectives s)
      (statements (shaderDefinitions s)) := by
  -- the four texts
  have hprolog := @reads_optionalCodeLines "HAS_SHADER_PROLOG_CODE" "shaderPrologCode"
    (by decide) (by decide) (by decide) s.parts.prolog
  have hvertex := @reads_optionalCodeLines "HAS_SHADER_VERTEX_SPECIFIC_CODE"
    "shaderVertexSpecificCode" (by decide) (by decide) (by decide) (interfaceCode s.parts .vertex)
  have hfragment := @reads_optionalCodeLines "HAS_SHADER_FRAGMENT_SPECIFIC_CODE"
    "shaderFragmentSpecificCode" (by decide) (by decide) (by decide)
    (interfaceCode s.parts .fragment)
  have hcommon := @reads_codeLines "HAS_SHADER_COMMON_CODE" "shaderCommonCode"
    (by decide) (by decide) (by decide) s.parts.common
  -- the table
  have hcount := reads_countDirective s.passes.length
  have hpasses := reads_passLines s.passes.zipIdx
  have hcodes : (s.passes.zipIdx.flatMap fun p => Stage.all.map p.1.code?) = passCodes s := by
    rw [passCodes, ← List.zipIdx_map_fst 0 s.passes, List.flatMap_map, List.zipIdx_map_fst]
  rw [hcodes] at hpasses
  have htable := reads_tableStart.append (hpasses.append (reads_tableEnd.append reads_empty))
  have hall := ((hprolog.append hvertex).append hfragment).append
    (hcommon.append (hcount.append htable))
  unfold countDirective at hall
  unfold shaderDirectives partDirectives countDirective
  simpa [shaderLines, shaderDefinitions, statements, codeDefinitions, codeDirectives,
    Definition.tokens] using hall

/-! ## Entries -/

/-- The place of the entry for a stage of a pass. -/
def entryIndex (index : Nat) : Stage → Nat
  | .vertex => 2 * index
  | .fragment => 2 * index + 1

/-- There are two entries for each pass. -/
theorem length_passCodes (s : Shader) : (passCodes s).length = 2 * s.passes.length := by
  rw [passCodes]
  induction s.passes with
  | nil => rfl
  | cons p passes ih =>
    rw [List.flatMap_cons, List.length_append, ih, List.length_cons]
    change 2 + 2 * passes.length = _
    omega

/-- The entry for a stage of a pass is the code of the stage. -/
theorem passCodes_getElem? (s : Shader) (index : Nat) (stage : Stage) :
    (passCodes s)[entryIndex index stage]? = (s.pass? index).map (·.code? stage) := by
  rw [passCodes, Shader.pass?]
  generalize s.passes = passes
  -- every pass has two entries, so the index moves on by two with each of them
  induction passes generalizing index with
  | nil => simp
  | cons p passes ih =>
    have hcodes : ((p :: passes).flatMap fun p => Stage.all.map p.code?) =
        p.code? .vertex :: p.code? .fragment :: passes.flatMap fun p => Stage.all.map p.code? :=
      rfl
    rw [hcodes]
    cases index with
    | zero => cases stage <;> rfl
    | succ index =>
      have hindex : entryIndex (index + 1) stage = entryIndex index stage + 2 := by
        cases stage <;> simp only [entryIndex] <;> omega
      rw [hindex, List.getElem?_cons_succ, List.getElem?_cons_succ, List.getElem?_cons_succ, ih]

/-- The directive for a stage of a pass says which stage of which pass. -/
theorem passDirective_injective {i j : Nat} {stage stage' : Stage}
    (h : passDirective i stage = passDirective j stage') : i = j ∧ stage = stage' := by
  unfold passDirective at h
  have htexts := congrArg String.toList h
  simp only [String.toList_append, List.append_assoc] at htexts
  have hrest : (Number.natText i).toList ++ '_' :: (stage.macroName.toList ++ "_CODE".toList) =
      (Number.natText j).toList ++ '_' :: (stage'.macroName.toList ++ "_CODE".toList) :=
    List.append_cancel_left htexts
  -- the number ends at the underscore
  have hnumber (n : Nat) : '_' ∉ (Number.natText n).toList :=
    fun h => absurd (Number.isDigit_of_mem_natText h) (by decide)
  have hparts := congrArg (List.splitOn '_') hrest
  rw [List.splitOn_append_cons_self, List.splitOn_append_cons_self,
    List.splitOn_eq_singleton (hnumber i), List.splitOn_eq_singleton (hnumber j)] at hparts
  obtain ⟨hdigits, -⟩ := List.cons.inj hparts
  obtain rfl := Number.natText_injective (String.toList_inj.mp hdigits)
  refine ⟨rfl, ?_⟩
  have hstage := List.append_cancel_right (List.cons.inj (List.append_cancel_left hrest)).2
  cases stage <;> cases stage' <;> first | rfl | exact absurd hstage (by decide)

/-- The directive for the number of passes says the number. -/
theorem countDirective_injective {m n : Nat} (h : countDirective m = countDirective n) :
    m = n := by
  unfold countDirective at h
  have htexts := congrArg String.toList h
  simp only [String.toList_append] at htexts
  exact Number.natText_injective (String.toList_inj.mp (List.append_cancel_left htexts))

/-! ## Directives -/

/-- What the directives for stages of passes start with. -/
def passPrefix : List Char :=
  "#define HAS_SHADER_PASS_".toList

/-- What the directive for the number of passes starts with. -/
def countPrefix : List Char :=
  "#define PASS_COUNT ".toList

/-- How the directive for a stage of a pass starts. -/
theorem isPrefixOf_passDirective (index : Nat) (stage : Stage) :
    passPrefix.isPrefixOf (passDirective index stage).toList = true ∧
      countPrefix.isPrefixOf (passDirective index stage).toList = false := by
  unfold passDirective
  simp only [String.toList_append, List.append_assoc]
  exact ⟨List.isPrefixOf_iff_prefix.mpr (List.prefix_append _ _), rfl⟩

/-- How the directive for the number of passes starts. -/
theorem isPrefixOf_countDirective (count : Nat) :
    countPrefix.isPrefixOf (countDirective count).toList = true ∧
      passPrefix.isPrefixOf (countDirective count).toList = false := by
  unfold countDirective
  simp only [String.toList_append]
  exact ⟨List.isPrefixOf_iff_prefix.mpr (List.prefix_append _ _), rfl⟩

/-- The directives for the pieces of the published shader start otherwise. -/
theorem isPrefixOf_of_mem_partDirectives {s : Shader} {line : List Char}
    (hline : line ∈ partDirectives s) :
    countPrefix.isPrefixOf line = false ∧ passPrefix.isPrefixOf line = false := by
  have hcode {macroName : String} {code : Option String}
      (h : line ∈ codeDirectives macroName code) : line = ("#define " ++ macroName).toList := by
    obtain ⟨_, -, h⟩ := List.mem_map.mp h
    exact h.symm
  simp only [partDirectives, List.mem_append] at hline
  rcases hline with ((h | h) | h) | h
  all_goals
    obtain rfl := hcode h
    decide

/-- The directive for a number of passes is among the directives if it is the number of passes. -/
theorem mem_shaderDirectives_countDirective (s : Shader) (count : Nat) :
    (countDirective count).toList ∈ shaderDirectives s ↔ count = s.passes.length := by
  rw [shaderDirectives, List.mem_append, List.mem_cons]
  constructor
  · rintro (h | h | h)
    -- the other directives start otherwise
    · have hstarts := (isPrefixOf_of_mem_partDirectives h).1
      rw [(isPrefixOf_countDirective count).1] at hstarts
      cases hstarts
    · exact countDirective_injective (String.toList_inj.mp h)
    · obtain ⟨p, -, h⟩ := List.mem_flatMap.mp h
      obtain ⟨stage, -, h⟩ := List.mem_flatMap.mp h
      obtain ⟨code, -, h⟩ := List.mem_map.mp h
      have hstarts := (isPrefixOf_passDirective p.2 stage).2
      rw [h, (isPrefixOf_countDirective count).1] at hstarts
      cases hstarts
  · rintro rfl
    exact .inr (.inl rfl)

/-- The directive for a stage of a pass is among the directives if the stage has code. -/
theorem mem_shaderDirectives_passDirective (s : Shader) (index : Nat) (stage : Stage) :
    (passDirective index stage).toList ∈ shaderDirectives s ↔
      ∃ code, (s.pass? index).map (·.code? stage) = some (some code) := by
  rw [shaderDirectives, List.mem_append, List.mem_cons]
  constructor
  · rintro (h | h | h)
    -- the first two groups of directives start otherwise
    · have hstarts := (isPrefixOf_of_mem_partDirectives h).2
      rw [(isPrefixOf_passDirective index stage).1] at hstarts
      cases hstarts
    · have hstarts := (isPrefixOf_countDirective s.passes.length).2
      rw [← h, (isPrefixOf_passDirective index stage).1] at hstarts
      cases hstarts
    · obtain ⟨⟨p, i⟩, hp, h⟩ := List.mem_flatMap.mp h
      obtain ⟨stage', -, h⟩ := List.mem_flatMap.mp h
      obtain ⟨code, hcode, h⟩ := List.mem_map.mp h
      obtain ⟨rfl, rfl⟩ := passDirective_injective (String.toList_inj.mp h)
      refine ⟨code, ?_⟩
      rw [Shader.pass?, List.mk_mem_zipIdx_iff_getElem?.mp hp]
      exact congrArg some (Option.mem_toList.mp hcode)
  · rintro ⟨code, h⟩
    obtain ⟨p, hp, hcode⟩ := Option.map_eq_some_iff.mp h
    refine .inr (.inr (List.mem_flatMap.mpr ⟨(p, index),
      List.mk_mem_zipIdx_iff_getElem?.mpr hp, List.mem_flatMap.mpr ⟨stage, ?_, ?_⟩⟩))
    · cases stage <;> decide
    · exact List.mem_map.mpr ⟨code, Option.mem_toList.mpr hcode, rfl⟩

/-! ## Definitions -/

/-- A stage has a text of its own if its interface is not empty. -/
theorem interfaceCode_eq_some_iff {p : Parts} {stage : Stage} {code : String} :
    interfaceCode p stage = some code ↔ p.interfaces.get stage ≠ "" ∧
      p.interfaces.get stage = code := by
  rw [interfaceCode]
  split
  · next h => simp [h]
  · next h => simp [h]

/-- The texts that are defined. -/
theorem text_mem_shaderDefinitions (s : Shader) (symbol code : String) :
    .text symbol code ∈ shaderDefinitions s ↔
      (symbol = "shaderPrologCode" ∧ s.parts.prolog = some code) ∨
      (symbol = "shaderVertexSpecificCode" ∧ interfaceCode s.parts .vertex = some code) ∨
      (symbol = "shaderFragmentSpecificCode" ∧ interfaceCode s.parts .fragment = some code) ∨
      (symbol = "shaderCommonCode" ∧ s.parts.common = code) := by
  have hdefinitions (name : String) (code' : Option String) :
      .text symbol code ∈ codeDefinitions name code' ↔ symbol = name ∧ code' = some code := by
    cases code' <;> simp [codeDefinitions, eq_comm]
  simp only [shaderDefinitions, List.mem_append, hdefinitions, List.mem_cons, List.not_mem_nil,
    Definition.text.injEq, reduceCtorEq, or_false, or_assoc]
  rw [eq_comm (a := code)]

/-- The tables that are defined. -/
theorem table_mem_shaderDefinitions (s : Shader) (symbol : String)
    (entries : List (Option String)) :
    .table symbol entries ∈ shaderDefinitions s ↔
      symbol = "shaderPassCodes" ∧ entries = passCodes s := by
  have hdefinitions (name : String) (code : Option String) :
      .table symbol entries ∉ codeDefinitions name code := by
    cases code <;> simp [codeDefinitions]
  simp [shaderDefinitions, hdefinitions]

/-- Nothing is defined twice. -/
theorem nodup_shaderDefinitions (s : Shader) :
    ((shaderDefinitions s).map Definition.name).Nodup := by
  have hnames (name : String) (code : Option String) :
      ((codeDefinitions name code).map Definition.name).Sublist [name] := by
    cases code with
    | none => exact List.nil_sublist _
    | some code => exact List.Sublist.refl _
  have hsublist : ((shaderDefinitions s).map Definition.name).Sublist
      (["shaderPrologCode"] ++ ["shaderVertexSpecificCode"] ++ ["shaderFragmentSpecificCode"] ++
        ["shaderCommonCode", "shaderPassCodes"]) := by
    rw [shaderDefinitions, List.map_append, List.map_append, List.map_append]
    exact (((hnames _ _).append (hnames _ _)).append (hnames _ _)).append (List.Sublist.refl _)
  exact hsublist.nodup (by decide)

/-! ## What the lines hold -/

/-- The lines for the code of a shader as one text. -/
def shaderText (s : Shader) : String :=
  "\n".intercalate (shaderLines s)

/-- What the text for the code of a shader is read as. -/
theorem read_shaderText (s : Shader) :
    directives (shaderText s) = shaderDirectives s ∧
      definitions? (shaderText s) = some (shaderDefinitions s) := by
  have hlines : shaderLines s ≠ [] := by simp [shaderLines]
  obtain ⟨hdirectives, htokens⟩ := (reads_shaderLines s).of_intercalate hlines
  exact ⟨hdirectives, definitions?_of_tokens? htokens⟩

/-- The text for the code of a shader is read as definitions, each of another name. The prolog, what
the stages have of their own and the common code are defined if they exist, and as what they are.
The table has two entries for each pass, which are the codes of its stages; an entry has a macro if
it is not missing, and it is missing exactly if the stage cannot be assembled for lack of code. -/
theorem shaderText_decode (s : Shader) :
    ∃ (definitions : List Definition) (entries : List (Option String)),
      definitions? (shaderText s) = some definitions ∧
      (definitions.map Definition.name).Nodup ∧
      (∀ code, .text "shaderPrologCode" code ∈ definitions ↔ s.parts.prolog = some code) ∧
      (∀ code, .text "shaderVertexSpecificCode" code ∈ definitions ↔
        s.parts.interfaces.vertex ≠ "" ∧ s.parts.interfaces.vertex = code) ∧
      (∀ code, .text "shaderFragmentSpecificCode" code ∈ definitions ↔
        s.parts.interfaces.fragment ≠ "" ∧ s.parts.interfaces.fragment = code) ∧
      (∀ code, .text "shaderCommonCode" code ∈ definitions ↔ s.parts.common = code) ∧
      (∀ table, .table "shaderPassCodes" table ∈ definitions ↔ table = entries) ∧
      (∀ count, (countDirective count).toList ∈ directives (shaderText s) ↔
        count = s.passes.length) ∧
      entries.length = 2 * s.passes.length ∧
      (∀ index stage, entries[entryIndex index stage]? =
        (s.pass? index).map (·.code? stage)) ∧
      (∀ index stage, (passDirective index stage).toList ∈ directives (shaderText s) ↔
        ∃ code, entries[entryIndex index stage]? = some (some code)) ∧
      ((s.uniformArrays.map (·.typeName)).Nodup → ∀ index < s.passes.length, ∀ stage,
        (entries[entryIndex index stage]? = some none ↔
          s.assemble (.stage stage index) = .error (.missingStageCode index stage))) := by
  obtain ⟨hdirectives, hdefinitions⟩ := read_shaderText s
  refine ⟨shaderDefinitions s, passCodes s, hdefinitions, nodup_shaderDefinitions s,
    fun code => ?_, fun code => ?_, fun code => ?_, fun code => ?_, fun table => ?_,
    fun count => ?_, length_passCodes s, passCodes_getElem? s, fun index stage => ?_,
    fun htypes index hindex stage => ?_⟩
  · simp [text_mem_shaderDefinitions]
  · have hvertex := @interfaceCode_eq_some_iff s.parts .vertex code
    simpa [text_mem_shaderDefinitions, Interfaces.get] using hvertex
  · have hfragment := @interfaceCode_eq_some_iff s.parts .fragment code
    simpa [text_mem_shaderDefinitions, Interfaces.get] using hfragment
  · simp [text_mem_shaderDefinitions]
  · simp [table_mem_shaderDefinitions]
  · rw [hdirectives, mem_shaderDirectives_countDirective]
  · rw [hdirectives, mem_shaderDirectives_passDirective, passCodes_getElem?]
  · have hpass : s.pass? index = some s.passes[index] := List.getElem?_eq_getElem hindex
    rw [passCodes_getElem?, s.assemble_stage_eq_missing_iff htypes, hpass]
    simp

/-- A pass with code for the fragment stage only. -/
theorem shaderText_decode_fragment :
    let s : Shader := { passes := [{ fragmentCode := some "color = vec4(1.);" }] }
    ∃ definitions entries, definitions? (shaderText s) = some definitions ∧
      .table "shaderPassCodes" entries ∈ definitions ∧ entries[0]? = some none ∧
      entries[1]? = some (some "color = vec4(1.);") ∧
      s.assemble (.stage .vertex 0) = .error (.missingStageCode 0 .vertex) := by
  intro s
  obtain ⟨definitions, entries, hdefinitions, -, -, -, -, -, htable, -, -, hentries, -, hmissing⟩ :=
    shaderText_decode s
  refine ⟨definitions, entries, hdefinitions, (htable entries).mpr rfl, hentries 0 .vertex,
    hentries 0 .fragment, ?_⟩
  exact (hmissing (by decide) 0 (by decide) .vertex).mp (hentries 0 .vertex)

end DemoBuild.DemoData
