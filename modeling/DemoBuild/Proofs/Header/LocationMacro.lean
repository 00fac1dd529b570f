import DemoBuild.Proofs.Header.ElementMacros
import DemoBuild.Proofs.Number.Text
import DemoBuild.Proofs.Text.Splice

/-!
# The lines for uniforms

For every uniform array the data header has a block of lines: macros for its name and its size, its
storage, and a macro for each element. One more macro behind the blocks prints where uniforms are
located. It goes on over as many lines as there are statements, each of which ends with a backslash,
the last one as well. What follows is an empty line, so that the macro ends there.

Types are written into macro names as they are, in capitals. A type that is not only a name can cut
such a macro name short, and what is left may be the name of the macro for locations.

## Main definitions

* `UniformArray.OnOneLine`: the names in a uniform array are free of line breaks;
* `DemoData.ArrayBlock`: the lines for a uniform array;
* `DemoData.locationStatements` and `DemoData.locationLine`: the macro that prints locations;
* `DemoData.defines` and `DemoData.cutShort`: lines that define a macro, and types that make others
  define the one for locations.

## Main results

* `DemoData.arrayBlock_arrayLines`: the macros for elements stay in the bounds of the storage;
* `DemoData.logicalLines_uniformLines`: the logical lines for uniforms;
* `DemoData.countP_defines_uniformLines`: how many of them define the macro for locations;
* `DemoData.uniformLines_spliced`: what the lines for uniforms are in a header.
-/

namespace DemoBuild

open Text (Whole ended logicalLines)

/-- The names in a uniform array that get into the header are free of line breaks. -/
structure UniformArray.OnOneLine (a : UniformArray) : Prop where
  /-- The type is on one line. -/
  typeName : '\n' ∉ a.typeName.toList
  /-- So is the name of the array. -/
  shaderName : '\n' ∉ a.shaderName.toList
  /-- So are the names of its elements. -/
  elements : ∀ v ∈ a.elements, '\n' ∉ v.name.toList

namespace DemoData

/-! ## The block of an array -/

/-- The lines for a uniform array: the macros for its name and its size, storage of this size, a
macro for each element with the index of the element, and an empty line. Samplers are stored as
integers. -/
structure ArrayBlock (a : UniformArray) (block : List String) : Prop where
  /-- There are as many macros for elements as there are elements. -/
  length_eq : block.length = a.elements.length + 4
  /-- The macro for the name. -/
  name : block[0]? =
    some ("#define " ++ nameMacro a.typeName ++ " \"" ++ a.shaderName ++ "\"")
  /-- The macro for the size. -/
  count : block[1]? =
    some ("#define " ++ countMacro a.typeName ++ " " ++ Number.natText a.elements.length)
  /-- The storage. -/
  storage : block[2]? = some ("static " ++
    (if "sampler".toList <+: a.typeName.toList then "int" else a.typeName) ++ " " ++
      a.typeName ++ "Uniforms[" ++ countMacro a.typeName ++ "];")
  /-- The macros for the elements, in their order. -/
  element : ∀ i v, a.elements[i]? = some v → block[i + 3]? =
    some ("#define " ++ elementMacro v.name ++ " " ++ a.typeName ++ "Uniforms[" ++
      Number.natText i ++ "]")
  /-- The empty line. -/
  blank : block.getLast? = some ""

/-- The block of every array is of this form. -/
theorem arrayBlock_arrayLines (a : UniformArray) : ArrayBlock a (arrayLines a) where
  length_eq := by simp [arrayLines]
  name := rfl
  count := rfl
  storage := by
    have hhost : hostType a.typeName =
        if "sampler".toList <+: a.typeName.toList then "int" else a.typeName := by
      simp only [hostType, List.isPrefixOf_iff_prefix]
    have hindex : "Uniforms[" = "Uniforms" ++ "[" := by decide
    have hline : (arrayLines a)[2]? = some ("static " ++ hostType a.typeName ++ " " ++
        (a.typeName ++ "Uniforms") ++ "[" ++ countMacro a.typeName ++ "];") := rfl
    rw [hline, ← hhost, hindex]
    -- what the type and its macro look like does not matter
    generalize hostType a.typeName = host
    generalize countMacro a.typeName = count
    simp only [String.append_assoc]
  element := by
    intro i v hv
    obtain ⟨hi, rfl⟩ := List.getElem?_eq_some_iff.mp hv
    have hlines : (arrayLines a)[i + 3]? =
        (a.elements.zipIdx.map (elementLine a.typeName) ++ [""])[i]? := rfl
    rw [hlines, List.getElem?_append_left (by simpa using hi), List.getElem?_map,
      List.getElem?_zipIdx, List.getElem?_eq_getElem hi, Option.map_some, Option.map_some,
      elementLine_eq, Nat.zero_add]
  blank := List.getLast?_concat

/-! ## Names on one line -/

theorem newline_not_mem_pascalCase {name : String} (h : '\n' ∉ name.toList) :
    '\n' ∉ (pascalCase name).toList := by
  rw [pascalCase, String.toList_ofList]
  generalize true = upperNext
  generalize name.toList = chars at h
  induction chars generalizing upperNext with
  | nil => simp [pascalCaseFrom]
  | cons c chars ih =>
    obtain ⟨hc, hrest⟩ : '\n' ≠ c ∧ '\n' ∉ chars := by simpa using h
    rw [pascalCaseFrom]
    split
    · exact ih _ hrest
    · split
      · simp [Text.newline_not_mem_upperChar hc.symm, ih _ hrest]
      · simp [hc, ih _ hrest]

theorem newline_not_mem_nameMacro {typeName : String} (h : '\n' ∉ typeName.toList) :
    '\n' ∉ (nameMacro typeName).toList := by
  simp [nameMacro, Text.newline_not_mem_upper h]

theorem newline_not_mem_countMacro {typeName : String} (h : '\n' ∉ typeName.toList) :
    '\n' ∉ (countMacro typeName).toList := by
  simp [countMacro, Text.newline_not_mem_upper h]

/-- A number is whole, as it has digits only. -/
theorem whole_natText (n : Nat) : Whole (Number.natText n) :=
  ⟨Number.newline_not_mem_natText n, fun h =>
    absurd (Number.isDigit_of_mem_natText (List.mem_of_getLast? h)) (by decide)⟩

/-- The lines for an array do not go on. -/
theorem whole_of_mem_arrayLines {a : UniformArray} (ha : a.OnOneLine) {line : String}
    (hline : line ∈ arrayLines a) : Whole line := by
  -- what a line ends with decides: no name stands there
  have hquote : Whole "\"" := by decide
  have hclose : Whole "];" := by decide
  have hbracket : Whole "]" := by decide
  have hname := newline_not_mem_nameMacro ha.typeName
  have hcount := newline_not_mem_countMacro ha.typeName
  have hhost : '\n' ∉ (hostType a.typeName).toList := by
    unfold hostType
    split
    · decide
    · exact ha.typeName
  simp only [arrayLines, List.mem_append, List.mem_cons, List.not_mem_nil, or_false,
    List.mem_map] at hline
  rcases hline with (⟨rfl | rfl | rfl⟩ | ⟨v, hv, rfl⟩) | rfl
  · exact hquote.append (by decide) (by simp [hname, ha.shaderName])
  · exact (whole_natText _).append (Number.natText_ne_empty _) (by simp [hcount])
  · exact hclose.append (by decide) (by simp [hhost, hcount, storage, ha.typeName])
  · have hv : '\n' ∉ (pascalCase v.1.name).toList :=
      newline_not_mem_pascalCase (ha.elements _ (List.fst_mem_of_mem_zipIdx hv))
    rw [elementLine_eq]
    exact hbracket.append (by decide)
      (by simp [elementMacro, hv, ha.typeName, Number.newline_not_mem_natText])
  · decide

/-! ## The macro for locations -/

/-- The statement that prints where the array as a whole is located. -/
def arrayStatement (typeName : String) : String :=
  "std::cout << \"" ++ typeName ++ " \"" ++ nameMacro typeName ++
    "\": \" << glGetUniformLocation(PROGRAM, " ++ nameMacro typeName ++ ") << std::endl;"

/-- The statement that prints where an element of an array is located. -/
def elementStatement (typeName : String) (index : Nat) : String :=
  "std::cout << \"  " ++ typeName ++ " \"" ++ nameMacro typeName ++ "\"[" ++ Number.natText index ++
    "]: \" << glGetUniformLocation(PROGRAM, " ++ nameMacro typeName ++ "\"[" ++
    Number.natText index ++ "]\") << std::endl;"

/-- The statements for an array: one for the array as a whole, then one for each element. -/
def locationStatements (a : UniformArray) : List String :=
  arrayStatement a.typeName :: (List.range a.elements.length).map (elementStatement a.typeName)

/-- The logical line of the macro for locations. It prints all of them where faults are looked for,
and does nothing otherwise. -/
def locationLine (s : Shader) (debug : Bool) : String :=
  "#define DEBUG_DISPLAY_UNIFORM_LOCATIONS(PROGRAM)" ++
    if debug then " " ++ String.join ((s.uniformArrays.flatMap locationStatements).map (· ++ " "))
    else ""

/-- Each line for an array in the macro is a statement that goes on. -/
theorem locationLines_eq (a : UniformArray) :
    locationLines a = (locationStatements a).map fun statement => statement ++ " " ++ "\\" := by
  have hend : ") << std::endl; \\" = ") << std::endl;" ++ " " ++ "\\" := by decide +kernel
  have hquoted : "\") << std::endl; \\" = "\") << std::endl;" ++ " " ++ "\\" := by decide +kernel
  have hopen : "\"[" = "\"" ++ "[" := by decide +kernel
  have hmiddle : "]: \" << glGetUniformLocation(PROGRAM, " =
      "]" ++ ": \" << glGetUniformLocation(PROGRAM, " := by decide +kernel
  have hclose : "]\") << std::endl;" = "]" ++ "\") << std::endl;" := by decide +kernel
  have harray : arrayLocationLine a.typeName = arrayStatement a.typeName ++ " " ++ "\\" := by
    unfold arrayLocationLine arrayStatement
    generalize nameMacro a.typeName = name
    rw [hend]
    simp only [String.append_assoc]
  have helement (index : Nat) : elementLocationLine a.typeName index =
      elementStatement a.typeName index ++ " " ++ "\\" := by
    unfold elementLocationLine elementStatement bracketed
    generalize nameMacro a.typeName = name
    generalize Number.natText index = index
    rw [hquoted, hopen, hmiddle, hclose]
    simp only [String.append_assoc]
  simp [locationLines, locationStatements, harray, helement, UniformArray.count]

/-- The statements are on one line. -/
theorem newline_not_mem_of_mem_locationStatements {a : UniformArray} (ha : a.OnOneLine)
    {statement : String} (h : statement ∈ locationStatements a) : '\n' ∉ statement.toList := by
  have hname := newline_not_mem_nameMacro ha.typeName
  rcases List.mem_cons.mp h with rfl | h
  · unfold arrayStatement
    simp only [String.toList_append, List.mem_append, not_or, and_assoc]
    exact ⟨by decide +kernel, ha.typeName, by decide +kernel, hname, by decide +kernel, hname,
      by decide +kernel⟩
  · obtain ⟨index, -, rfl⟩ := List.mem_map.mp h
    have hindex : '\n' ∉ (Number.natText index).toList := Number.newline_not_mem_natText index
    unfold elementStatement
    simp only [String.toList_append, List.mem_append, not_or, and_assoc]
    exact ⟨by decide +kernel, ha.typeName, by decide +kernel, hname, by decide +kernel, hindex,
      by decide +kernel, hname, by decide +kernel, hindex, by decide +kernel⟩

/-- The macro for locations is one logical line, with the empty line behind it if it goes on. -/
theorem logicalLines_locationMacro {s : Shader} (hs : ∀ a ∈ s.uniformArrays, a.OnOneLine)
    (debug : Bool) : logicalLines (ended (locationMacro s debug) ++ "") =
      locationLine s debug :: if debug then [] else [""] := by
  have hblank : logicalLines "" = [""] := Text.logicalLines_of_not_mem (by decide)
  cases debug with
  | false =>
    have hwhole : ∀ line ∈ locationMacro s false, Whole line := by
      unfold locationMacro
      rw [if_neg (by decide), List.forall_mem_singleton]
      decide +kernel
    rw [Text.logicalLines_ended_append hwhole, hblank]
    rfl
  | true =>
    -- every line of the macro goes on
    have hlines : locationMacro s true =
        ("#define DEBUG_DISPLAY_UNIFORM_LOCATIONS(PROGRAM) " ::
          (s.uniformArrays.flatMap locationStatements).map (· ++ " ")).map (· ++ "\\") := by
      have hhead : "#define DEBUG_DISPLAY_UNIFORM_LOCATIONS(PROGRAM)" ++ " \\" =
          "#define DEBUG_DISPLAY_UNIFORM_LOCATIONS(PROGRAM) " ++ "\\" := by decide +kernel
      unfold locationMacro
      rw [if_pos rfl, hhead, List.map_cons, List.map_map, List.map_flatMap,
        funext locationLines_eq]
      rfl
    have hfree : ∀ line ∈ "#define DEBUG_DISPLAY_UNIFORM_LOCATIONS(PROGRAM) " ::
        (s.uniformArrays.flatMap locationStatements).map (· ++ " "), '\n' ∉ line.toList := by
      refine List.forall_mem_cons.mpr ⟨by decide +kernel, ?_⟩
      refine List.forall_mem_map.mpr fun statement h => ?_
      obtain ⟨a, ha, hmem⟩ := List.mem_flatMap.mp h
      simp [newline_not_mem_of_mem_locationStatements (hs a ha) hmem]
    have hhead : "#define DEBUG_DISPLAY_UNIFORM_LOCATIONS(PROGRAM) " =
        "#define DEBUG_DISPLAY_UNIFORM_LOCATIONS(PROGRAM)" ++ " " := by decide +kernel
    rw [hlines, Text.logicalLines_continued_append hfree (by decide), String.append_empty,
      String.join_cons, hhead]
    unfold locationLine
    rw [if_pos rfl, if_pos rfl, String.append_assoc]

/-- The logical lines for uniforms are the blocks of the arrays, as they are, and the macro for
locations, which ends where the lines do. -/
theorem logicalLines_uniformLines {s : Shader} (hs : ∀ a ∈ s.uniformArrays, a.OnOneLine)
    (debug : Bool) : logicalLines ("\n".intercalate (uniformLines s debug)) =
      s.uniformArrays.flatMap arrayLines ++ locationLine s debug :: if debug then [] else [""] := by
  have hblocks : ∀ line ∈ s.uniformArrays.flatMap arrayLines, Whole line := by
    intro line hline
    obtain ⟨a, ha, hmem⟩ := List.mem_flatMap.mp hline
    exact whole_of_mem_arrayLines (hs a ha) hmem
  rw [uniformLines, ← Text.ended_append_eq_intercalate, Text.ended_append, String.append_assoc,
    Text.logicalLines_ended_append hblocks, logicalLines_locationMacro hs]

/-! ## Lines that define the macro -/

/-- The character stands between the words of a directive. -/
def isSpacing (c : Char) : Bool :=
  c == ' ' || c == '\t'

/-- The word with which a text begins, behind spaces. -/
def firstWord (text : List Char) : List Char :=
  (text.dropWhile isSpacing).takeWhile Text.isWord

/-- The line defines a macro of this name. -/
def defines (name line : String) : Bool :=
  "#define ".toList.isPrefixOf line.toList &&
    firstWord (line.toList.drop "#define ".toList.length) == name.toList

/-- The name of the macro for locations. -/
def locationName : String :=
  "DEBUG_DISPLAY_UNIFORM_LOCATIONS"

/-- In capitals, the type begins with the name of the macro for locations and goes on with what
cannot be a part of a name. -/
def cutShort (typeName : String) : Bool :=
  firstWord (Text.upper typeName).toList == locationName.toList &&
    !((Text.upper typeName).toList.dropWhile isSpacing).all Text.isWord

/-- A directive defines what it begins with. -/
theorem defines_append (name text : String) :
    defines name ("#define " ++ text) = (firstWord text.toList == name.toList) := by
  have hprefix : "#define ".toList.isPrefixOf ("#define ".toList ++ text.toList) = true :=
    List.isPrefixOf_iff_prefix.mpr (List.prefix_append _ _)
  rw [defines, String.toList_append, hprefix, List.drop_left, Bool.true_and]

/-- A part of a name behind a text belongs to its first word if all of the text does. -/
theorem firstWord_append {suffix : List Char} (hword : suffix.all Text.isWord = true)
    (hfirst : suffix.head? = some '_') (text rest : List Char) :
    firstWord (text ++ (suffix ++ ' ' :: rest)) =
      if (text.dropWhile isSpacing).all Text.isWord then text.dropWhile isSpacing ++ suffix
      else firstWord text := by
  have hdrop : (text ++ (suffix ++ ' ' :: rest)).dropWhile isSpacing =
      text.dropWhile isSpacing ++ (suffix ++ ' ' :: rest) := by
    obtain ⟨suffix, rfl⟩ := List.head?_eq_some_iff.mp hfirst
    rw [List.dropWhile_append]
    split
    · next hempty =>
      rw [List.isEmpty_iff.mp hempty, List.cons_append, List.dropWhile_cons_of_neg (by decide),
        List.nil_append]
    · rfl
  rw [firstWord, hdrop]
  split
  · next hall =>
    rw [← List.append_assoc]
    refine Text.takeWhile_append (fun c hc => ?_) (by simp)
    rcases List.mem_append.mp hc with h | h
    · exact List.all_eq_true.mp hall c h
    · exact List.all_eq_true.mp hword c h
  · next hall =>
    -- the word ends inside of the text
    rw [List.takeWhile_append, if_neg, firstWord]
    intro hlength
    -- the first word would be all of it otherwise
    rw [← (List.takeWhile_prefix Text.isWord).eq_of_length hlength] at hall
    exact hall List.all_takeWhile

/-- A macro that is named for a type is the one for locations exactly if the type cuts its name
short. -/
theorem defines_typeMacro (suffix : String) (hword : suffix.toList.all Text.isWord = true)
    (hfirst : suffix.toList.head? = some '_')
    (hother : ¬ suffix.toList <:+ locationName.toList) (typeName rest : String) :
    defines locationName ("#define " ++ (Text.upper typeName ++ suffix ++ " " ++ rest)) =
      cutShort typeName := by
  have hlist : (Text.upper typeName ++ suffix ++ " " ++ rest).toList =
      (Text.upper typeName).toList ++ (suffix.toList ++ ' ' :: rest.toList) := by
    simp
  rw [defines_append, hlist, firstWord_append hword hfirst, cutShort]
  split
  · next hall =>
    -- the whole name has another end
    have hne : (Text.upper typeName).toList.dropWhile isSpacing ++ suffix.toList ≠
        locationName.toList := fun h => hother (h ▸ List.suffix_append _ _)
    simp [hall, hne]
  · next hall => simp [hall]

/-- The macro for an element is another one. -/
theorem defines_elementLine (typeName : String) (v : ShaderVariable × Nat) :
    defines locationName (elementLine typeName v) = false := by
  have hword (text : List Char) : firstWord ("uniform".toList ++ text) ≠ locationName.toList := by
    have hletters : "uniform".toList = 'u' :: "niform".toList := by decide
    rw [hletters, List.cons_append, firstWord, List.dropWhile_cons_of_neg (by decide),
      List.takeWhile_cons_of_pos (by decide)]
    exact fun h => absurd (List.head_eq_of_cons_eq h) (by decide)
  have hdefine : "#define uniform" = "#define " ++ "uniform" := by decide
  unfold elementLine
  -- what the name and the index look like does not matter
  generalize pascalCase v.1.name = name
  generalize bracketed v.2 = index
  rw [hdefine]
  simp only [String.append_assoc]
  rw [defines_append, String.toList_append, beq_eq_false_iff_ne]
  exact hword _

/-- The lines for an array define the macro for locations twice, or not at all. -/
theorem countP_defines_arrayLines (a : UniformArray) :
    (arrayLines a).countP (defines locationName) = if cutShort a.typeName then 2 else 0 := by
  have hname : defines locationName
      ("#define " ++ nameMacro a.typeName ++ " \"" ++ a.shaderName ++ "\"") =
        cutShort a.typeName := by
    have hspace : " \"" = " " ++ "\"" := by decide
    have h := defines_typeMacro "_UNIFORM_NAME" (by decide) (by decide) (by decide) a.typeName
      ("\"" ++ (a.shaderName ++ "\""))
    rw [← h, nameMacro, hspace]
    simp only [String.append_assoc]
  have hcount : defines locationName
      ("#define " ++ countMacro a.typeName ++ " " ++ Number.natText a.count) =
        cutShort a.typeName := by
    have h := defines_typeMacro "_UNIFORM_COUNT" (by decide) (by decide) (by decide) a.typeName
      (Number.natText a.count)
    rw [← h, countMacro]
    simp only [String.append_assoc]
  -- the other lines do not depend on the type
  have hstorage : defines locationName ("static " ++ hostType a.typeName ++ " " ++
      storage a.typeName ++ "[" ++ countMacro a.typeName ++ "];") = false := by
    simp [defines]
  have helements : (a.elements.zipIdx.map (elementLine a.typeName)).countP
      (defines locationName) = 0 := by
    simp [defines_elementLine]
  have hblank : defines locationName "" = false := by decide
  rw [arrayLines, List.countP_append, List.countP_append, helements]
  simp only [List.countP_cons, List.countP_nil, hname, hcount, hstorage, hblank]
  cases cutShort a.typeName <;> rfl

/-- The macro for locations is defined. -/
theorem defines_locationLine (s : Shader) (debug : Bool) :
    defines locationName (locationLine s debug) = true := by
  have hhead : "#define DEBUG_DISPLAY_UNIFORM_LOCATIONS(PROGRAM)" =
      "#define " ++ (locationName ++ "(PROGRAM)") := by decide +kernel
  have hword (rest : List Char) :
      firstWord (locationName.toList ++ '(' :: rest) = locationName.toList := by
    have hletters : locationName.toList = 'D' :: locationName.toList.tail := by decide +kernel
    have hdrop : (locationName.toList ++ '(' :: rest).dropWhile isSpacing =
        locationName.toList ++ '(' :: rest := by
      rw [hletters, List.cons_append, List.dropWhile_cons_of_neg (by decide)]
    rw [firstWord, hdrop]
    have hletter : locationName.toList.all Text.isWord = true := by decide
    refine Text.takeWhile_append (List.all_eq_true.mp hletter) ?_
    rintro _ ⟨⟩
    decide
  unfold locationLine
  rw [hhead, String.append_assoc, String.append_assoc, defines_append, beq_iff_eq,
    String.toList_append, String.toList_append]
  exact hword _

/-- Among the logical lines for uniforms, one defines the macro for locations, and with it two for
each array whose type cuts the names of its macros short. -/
theorem countP_defines_uniformLines {s : Shader} (hs : ∀ a ∈ s.uniformArrays, a.OnOneLine)
    (debug : Bool) :
    (logicalLines ("\n".intercalate (uniformLines s debug))).countP (defines locationName) =
      2 * (s.uniformArrays.countP fun a => cutShort a.typeName) + 1 := by
  have hblocks : (s.uniformArrays.flatMap arrayLines).countP (defines locationName) =
      2 * (s.uniformArrays.countP fun a => cutShort a.typeName) := by
    induction s.uniformArrays with
    | nil => rfl
    | cons a arrays ih =>
      rw [List.flatMap_cons, List.countP_append, countP_defines_arrayLines, ih, List.countP_cons]
      split <;> omega
  have hblank : (if debug then [] else [""]).countP (defines locationName) = 0 := by
    cases debug <;> decide
  rw [logicalLines_uniformLines hs, List.countP_append, hblocks,
    List.countP_cons_of_pos (defines_locationLine s debug), hblank]

/-! ## The header -/

/-- The last line, if there is one, is empty. -/
inductive EndsBlank : List String → Prop
  /-- There is no line. -/
  | nil : EndsBlank []
  /-- An empty line is the last one. -/
  | blank (front : List String) : EndsBlank (front ++ [""])

theorem EndsBlank.append {lines lines' : List String} (h : EndsBlank lines)
    (h' : EndsBlank lines') : EndsBlank (lines ++ lines') := by
  cases h' with
  | nil => rwa [List.append_nil]
  | blank front =>
    rw [← List.append_assoc]
    exact .blank _

/-- The lines for sound end with an empty one. -/
theorem endsBlank_audioLines {c : Config} {lines : List String} (h : audioLines c = .ok lines) :
    EndsBlank lines := by
  obtain ⟨tool?, -, hlines⟩ := bind_eq_ok_iff.mp h
  split at hlines
  · obtain rfl := Except.ok.inj hlines
    exact .blank ["#include \"audio-shader.cpp\"", "#define AUDIO_TEXTURE"]
  · obtain rfl := Except.ok.inj hlines
    exact .nil

/-- The lines for looking for faults end with an empty one. -/
theorem endsBlank_debugLines {context : Context} {lines : List String}
    (h : debugLines context = .ok lines) : EndsBlank lines := by
  unfold debugLines at h
  split at h
  · obtain rfl := Except.ok.inj h
    exact .nil
  · have hdebug : EndsBlank ["#define DEBUG", ""] := .blank ["#define DEBUG"]
    dsimp only at h
    split at h
    · obtain ⟨port, -, hlines⟩ := bind_eq_ok_iff.mp h
      obtain rfl := Except.ok.inj hlines
      exact hdebug.append (.blank ["#define SERVER", "#define SERVER_PORT " ++ port])
    · obtain rfl := Except.ok.inj h
      exact hdebug

/-- In a header an empty line stands in front of the lines for uniforms, and more lines follow. -/
theorem exists_eq_of_start_render {d : DemoData} {context : Context} {session : Session}
    {text : String} (h : ((d.render context).start session).1 = .ok text) :
    ∃ before after, after ≠ [] ∧ text = "\n".intercalate
      (before ++ [""] ++ (uniformLines d.shader context.mode.isDebug ++ after)) := by
  obtain ⟨-, audio, debug, settings, haudio, hdebug, -, rfl⟩ := start_render_eq_ok_iff.mp h
  have hblank : EndsBlank (["#pragma once", ""] ++ audio ++ debug) :=
    .append (.append (.blank ["#pragma once"]) (endsBlank_audioLines haudio))
      (endsBlank_debugLines hdebug)
  -- there are lines in front, so an empty one is the last of them
  generalize hbefore : ["#pragma once", ""] ++ audio ++ debug = before at hblank
  cases hblank with
  | nil => cases hbefore
  | blank before =>
    refine ⟨before, shaderLines d.shader ++ settings ++ d.hooks.map fun hook =>
      "#define " ++ hookMacro hook, by simp [shaderLines], ?_⟩
    rw [headerLines, hbefore]
    simp only [List.append_assoc]

/-- The logical lines for uniforms stand in a header on their own: none of them goes on in what
follows, and nothing before goes on in them. -/
theorem exists_logicalLines_of_start_render {d : DemoData} {context : Context} {session : Session}
    {text : String} (h : ((d.render context).start session).1 = .ok text) :
    ∃ before after, text = "\n".intercalate
        (before ++ uniformLines d.shader context.mode.isDebug ++ after) ∧
      logicalLines text = logicalLines ("\n".intercalate before) ++
        logicalLines ("\n".intercalate (uniformLines d.shader context.mode.isDebug)) ++
          logicalLines ("\n".intercalate after) := by
  obtain ⟨before, after, hafter, rfl⟩ := exists_eq_of_start_render h
  refine ⟨before ++ [""], after, by simp only [List.append_assoc], ?_⟩
  -- both the lines in front and those for uniforms end with an empty line
  rw [Text.logicalLines_intercalate_blank before (by simp [hafter]), uniformLines,
    Text.logicalLines_intercalate_blank _ hafter]
  exact (List.append_assoc _ _ _).symm

/-- The lines for uniforms, if the names in them are free of line breaks. First come the blocks of
the arrays in their order, each with as many macros as there are elements, for the indices below the
size of the storage. Logical lines are those of the blocks, and then one that defines the macro for
locations: where faults are looked for, it consists of the statements for the arrays and takes in
the empty line behind it, and otherwise it is empty. No other line defines this macro, but for two
for each array whose type begins, in capitals and behind spaces, with the name of the macro and goes
on with what cannot be a part of a name. In a header nothing else gets into these lines. -/
theorem uniformLines_spliced {s : Shader} (hs : ∀ a ∈ s.uniformArrays, a.OnOneLine)
    (debug : Bool) :
    let emitted := "\n".intercalate (uniformLines s debug)
    s.uniformArrays.flatMap arrayLines <+: uniformLines s debug ∧
      (∀ a ∈ s.uniformArrays, ArrayBlock a (arrayLines a)) ∧
      logicalLines emitted = s.uniformArrays.flatMap arrayLines ++
        locationLine s debug :: (if debug then [] else [""]) ∧
      (logicalLines emitted).countP (defines locationName) =
        2 * (s.uniformArrays.countP fun a => cutShort a.typeName) + 1 ∧
      ∀ (d : DemoData) (context : Context) (session : Session) (text : String), d.shader = s →
        context.mode.isDebug = debug → ((d.render context).start session).1 = .ok text →
        ∃ before after, text = "\n".intercalate (before ++ uniformLines s debug ++ after) ∧
          logicalLines text = logicalLines ("\n".intercalate before) ++ logicalLines emitted ++
            logicalLines ("\n".intercalate after) := by
  refine ⟨?_, fun a _ => arrayBlock_arrayLines a, logicalLines_uniformLines hs debug,
    countP_defines_uniformLines hs debug, ?_⟩
  · rw [uniformLines, List.append_assoc]
    exact List.prefix_append _ _
  · rintro d context session text rfl rfl h
    exact exists_logicalLines_of_start_render h

/-- The logical lines for an array of one element, in a header with which faults are looked for. -/
theorem uniformLines_spliced_time :
    let s := uniformsNamed [("float", ["time"])]
    logicalLines ("\n".intercalate (uniformLines s true)) =
        ["#define FLOAT_UNIFORM_NAME \"floatUniforms\"", "#define FLOAT_UNIFORM_COUNT 1",
          "static float floatUniforms[FLOAT_UNIFORM_COUNT];",
          "#define uniformTime floatUniforms[0]", "",
          "#define DEBUG_DISPLAY_UNIFORM_LOCATIONS(PROGRAM) " ++
            "std::cout << \"float \"FLOAT_UNIFORM_NAME\": \" << " ++
            "glGetUniformLocation(PROGRAM, FLOAT_UNIFORM_NAME) << std::endl; " ++
            "std::cout << \"  float \"FLOAT_UNIFORM_NAME\"[0]: \" << " ++
            "glGetUniformLocation(PROGRAM, FLOAT_UNIFORM_NAME\"[0]\") << std::endl; "] ∧
      (logicalLines ("\n".intercalate (uniformLines s true))).countP (defines locationName) = 1 ∧
      ∃ text before after, ((render ⟨s, []⟩ ⟨.empty, .debug⟩).start ⟨.empty, [], []⟩).1 =
          .ok text ∧
        logicalLines text = logicalLines ("\n".intercalate before) ++
          logicalLines ("\n".intercalate (uniformLines s true)) ++
            logicalLines ("\n".intercalate after) := by
  intro s
  have hs : ∀ a ∈ s.uniformArrays, a.OnOneLine :=
    List.forall_mem_singleton.mpr ⟨by decide, by decide, by decide⟩
  obtain ⟨text, htext⟩ : ∃ text, ((render ⟨s, []⟩ ⟨.empty, .debug⟩).start
      ⟨.empty, [], []⟩).1 = .ok text := ⟨_, rfl⟩
  obtain ⟨-, -, hlines, hcount, hheader⟩ := uniformLines_spliced hs true
  obtain ⟨before, after, -, htext'⟩ := hheader _ _ _ _ rfl rfl htext
  exact ⟨hlines.trans (by decide +kernel), hcount.trans (by decide +kernel), text, before, after,
    htext, htext'⟩

/-- A type that begins with the name of the macro for locations, but is no name, makes the macros of
its array definitions of that macro, so that it is defined three times. -/
theorem locationMacro_redefined :
    let s : Shader :=
      { uniformArrays := [⟨"debug_display_uniform_locations(program) x", "a", none, []⟩] }
    let lines := logicalLines ("\n".intercalate (uniformLines s false))
    (∀ a ∈ s.uniformArrays, a.OnOneLine) ∧ s.checkUniformArrays = .ok () ∧
      lines.filter (defines locationName) =
        ["#define DEBUG_DISPLAY_UNIFORM_LOCATIONS(PROGRAM) X_UNIFORM_NAME \"a\"",
          "#define DEBUG_DISPLAY_UNIFORM_LOCATIONS(PROGRAM) X_UNIFORM_COUNT 0",
          "#define DEBUG_DISPLAY_UNIFORM_LOCATIONS(PROGRAM)"] ∧
      lines.countP (defines locationName) ≠ 1 := by
  intro s lines
  have hs : ∀ a ∈ s.uniformArrays, a.OnOneLine :=
    List.forall_mem_singleton.mpr ⟨by decide +kernel, by decide, by decide⟩
  have hfilter : lines.filter (defines locationName) =
      ["#define DEBUG_DISPLAY_UNIFORM_LOCATIONS(PROGRAM) X_UNIFORM_NAME \"a\"",
        "#define DEBUG_DISPLAY_UNIFORM_LOCATIONS(PROGRAM) X_UNIFORM_COUNT 0",
        "#define DEBUG_DISPLAY_UNIFORM_LOCATIONS(PROGRAM)"] := by
    rw [show lines = _ from logicalLines_uniformLines hs false]
    decide +kernel
  refine ⟨hs, rfl, hfilter, ?_⟩
  rw [List.countP_eq_length_filter, hfilter]
  decide

end DemoData

end DemoBuild
