import DemoBuild.Manifest.Load
import DemoBuild.Proofs.Header.Settings
import DemoBuild.Proofs.Manifest.Reader
import DemoBuild.Proofs.Shader.Assembly
import Mathlib.Data.List.Nodup

/-!
# Uniform arrays of a manifest

Uniform arrays are given by type or as a list; either way they are read one after the other, and an
array whose type has occurred ends the reading. So a demo that has been loaded has one array for a
type, and what asks for that again later, when code is assembled or the data header is written,
never complains.

## Main definitions

* `Manifest.readArrays`: arrays are read one after the other, each of a new type;
* `Manifest.WrittenArray`: an array as it is written in either form.

## Main results

* `Manifest.readArrays_eq_ok_iff` and `Manifest.readArrays_eq_repeated`: which arrays are read, and
  which one ends the reading;
* `Manifest.uniformArrays_keyed`: the two forms are read alike;
* `Manifest.nodup_of_parse`: a demo that is loaded has distinct uniform arrays;
* `Manifest.uniformArrays_distinct`: what the distinctness amounts to, from document to consumers.
-/

namespace DemoBuild.Manifest

open Yaml (Tree Reader Mismatch)
open Yaml.Reader

/-! ## Reading arrays one after the other -/

section

variable {ι : Type} {read : ι → Except Mismatch UniformArray}

/-- Arrays are read one after the other and appended, each of a new type. -/
def readArrays (read : ι → Except Mismatch UniformArray) (items : List ι)
    (arrays : List UniformArray) : Except Mismatch (List UniformArray) :=
  items.foldlM (fun arrays item => do appendArray arrays (← read item)) arrays

/-- An array is appended if its type is new. -/
theorem appendArray_eq_ok_iff {arrays after : List UniformArray} {a : UniformArray} :
    appendArray arrays a = .ok after ↔
      a.typeName ∉ arrays.map (·.typeName) ∧ arrays ++ [a] = after := by
  unfold appendArray
  split <;> simp_all

/-- An array of a type that has occurred is refused. -/
theorem appendArray_of_mem {arrays : List UniformArray} {a : UniformArray}
    (h : a.typeName ∈ arrays.map (·.typeName)) :
    appendArray arrays a = .error (.repeatedType a.typeName) := by
  rw [appendArray, if_pos]
  simpa using h

/-- The first array is read and appended in front of all others. -/
theorem readArrays_cons (item : ι) (items : List ι) (arrays : List UniformArray) :
    readArrays read (item :: items) arrays =
      read item >>= fun a => appendArray arrays a >>= readArrays read items := by
  rw [readArrays, List.foldlM_cons, bind_assoc]
  rfl

/-- Arrays are read if each of them is and their types are distinct. -/
theorem readArrays_eq_ok_iff {items : List ι} {arrays after : List UniformArray}
    (harrays : (arrays.map (·.typeName)).Nodup) :
    readArrays read items arrays = .ok after ↔
      ∃ more, items.mapM read = .ok more ∧ ((arrays ++ more).map (·.typeName)).Nodup ∧
        arrays ++ more = after := by
  induction items generalizing arrays with
  | nil =>
    constructor
    · intro h
      cases h
      exact ⟨[], rfl, by simpa using harrays, by simp⟩
    · rintro ⟨more, hmore, -, rfl⟩
      cases hmore
      simp [readArrays, pure, Except.pure]
  | cons item items ih =>
    simp only [readArrays_cons, List.mapM_cons, bind_eq_ok_iff, appendArray_eq_ok_iff]
    constructor
    · rintro ⟨a, ha, _, ⟨hnew, rfl⟩, hrest⟩
      obtain ⟨more, hmore, hnodup, hafter⟩ :=
        (ih ((Shader.nodup_append_singleton harrays).mpr hnew)).mp hrest
      exact ⟨a :: more, ⟨a, ha, more, hmore, rfl⟩, by simpa using hnodup, by simpa using hafter⟩
    · rintro ⟨_, ⟨a, ha, more, hmore, hcons⟩, hnodup, hafter⟩
      cases hcons
      -- The first array counts to those in front of the rest.
      rw [List.append_cons] at hnodup hafter
      have hnext : ((arrays ++ [a]).map (·.typeName)).Nodup := by
        rw [List.map_append] at hnodup
        exact hnodup.of_append_left
      exact ⟨a, ha, _, ⟨(Shader.nodup_append_singleton harrays).mp hnext, rfl⟩,
        (ih hnext).mpr ⟨more, hmore, hnodup, hafter⟩⟩

/-- The arrays that are read have distinct types. -/
theorem nodup_of_readArrays {items : List ι} {arrays : List UniformArray}
    (h : readArrays read items [] = .ok arrays) : (arrays.map (·.typeName)).Nodup := by
  obtain ⟨more, -, hnodup, rfl⟩ := (readArrays_eq_ok_iff (by simp)).mp h
  exact hnodup

/-- The first array whose type has occurred ends the reading. -/
theorem readArrays_eq_repeated {items : List ι} {arrays more : List UniformArray}
    (harrays : (arrays.map (·.typeName)).Nodup) (hmore : items.mapM read = .ok more)
    (hrepeated : ¬ ((arrays ++ more).map (·.typeName)).Nodup) :
    ∃ first a rest, more = first ++ a :: rest ∧
      ((arrays ++ first).map (·.typeName)).Nodup ∧
      a.typeName ∈ (arrays ++ first).map (·.typeName) ∧
      readArrays read items arrays = .error (.repeatedType a.typeName) := by
  induction items generalizing arrays more with
  | nil =>
    cases hmore
    exact absurd (by simpa using harrays) hrepeated
  | cons item items ih =>
    rw [List.mapM_cons] at hmore
    obtain ⟨a, ha, hmore⟩ := bind_eq_ok_iff.mp hmore
    obtain ⟨more, hitems, hmore⟩ := bind_eq_ok_iff.mp hmore
    cases hmore
    rw [readArrays_cons, ha]
    by_cases hmem : a.typeName ∈ arrays.map (·.typeName)
    · -- This is the first array whose type has occurred, as the types so far are distinct.
      refine ⟨[], a, more, rfl, by simpa using harrays, by simpa using hmem, ?_⟩
      simp [bind, Except.bind, appendArray_of_mem hmem]
    · have happend : appendArray arrays a = .ok (arrays ++ [a]) :=
        appendArray_eq_ok_iff.mpr ⟨hmem, rfl⟩
      obtain ⟨first, b, rest, rfl, hfirst, hb, herror⟩ :=
        ih ((Shader.nodup_append_singleton harrays).mpr hmem) hitems (by simpa using hrepeated)
      refine ⟨a :: first, b, rest, rfl, by simpa using hfirst, by simpa using hb, ?_⟩
      simpa [bind, Except.bind, happend] using herror

end

/-! ## The two forms -/

/-- Reads an array from an entry by type. -/
def keyedArray (entry : Tree × Tree) : Except Mismatch UniformArray := do
  arrayOf (← Reader.text entry.1) entry.2

/-- Arrays by type are read one after the other. -/
theorem uniformArrays_mapping (entries : List (Tree × Tree)) :
    uniformArrays (.mapping entries) = readArrays keyedArray entries [] := by
  simp only [uniformArrays, readArrays, keyedArray, bind_assoc]

/-- Arrays in a list are read one after the other. -/
theorem uniformArrays_sequence (items : List Tree) :
    uniformArrays (.sequence items) = readArrays typedArray items [] :=
  rfl

/-- The uniform arrays that are read have distinct types. -/
theorem nodup_of_uniformArrays {t : Tree} {arrays : List UniformArray}
    (h : uniformArrays t = .ok arrays) : (arrays.map (·.typeName)).Nodup := by
  cases t with
  | mapping entries => exact nodup_of_readArrays (uniformArrays_mapping entries ▸ h)
  | sequence items => exact nodup_of_readArrays (uniformArrays_sequence items ▸ h)
  | _ => cases h

/-- A uniform array as a document writes it, with the entries in front of and behind its type. -/
structure WrittenArray where
  /-- The name of the type. -/
  typeName : String
  /-- The entries in front of the type. -/
  before : List (Tree × Tree)
  /-- The entries behind the type. -/
  after : List (Tree × Tree)
  /-- None of the entries in front is a type. -/
  before_untyped : ∀ entry ∈ before, entry.1.text? ≠ some "type"
  /-- None of the entries behind is a type. -/
  after_untyped : ∀ entry ∈ after, entry.1.text? ≠ some "type"

namespace WrittenArray

/-- The array in the form by type. -/
def keyed (w : WrittenArray) : Tree × Tree :=
  (.text w.typeName, .mapping (w.before ++ w.after))

/-- The array in the form of a list. -/
def listed (w : WrittenArray) : Tree :=
  .mapping (w.before ++ (.text "type", .text w.typeName) :: w.after)

/-- An array is read alike in both forms. -/
theorem keyedArray_keyed (w : WrittenArray) : keyedArray w.keyed = typedArray w.listed := by
  have hfields : ∀ f ∈ arrayFields,
      Commutes (fun a : UniformArray => { a with typeName := w.typeName }) f := by
    -- No other field reads or changes the type.
    simp only [arrayFields, List.forall_mem_cons]
    exact ⟨commutes_field fun _ _ => rfl, commutes_field fun _ _ => rfl,
      commutes_field fun _ _ => rfl, by simp⟩
  have hbeforehand : typedArray w.listed = arrayOf w.typeName (.mapping (w.before ++ w.after)) :=
    record_given hfields rfl (by decide) w.before_untyped w.after_untyped
  exact hbeforehand.symm

end WrittenArray

/-- Uniform arrays are read alike in both forms, also where they are refused. -/
theorem uniformArrays_keyed (arrays : List WrittenArray) :
    uniformArrays (.mapping (arrays.map WrittenArray.keyed)) =
      uniformArrays (.sequence (arrays.map WrittenArray.listed)) := by
  rw [uniformArrays_mapping, uniformArrays_sequence, readArrays, readArrays, List.foldlM_map,
    List.foldlM_map]
  simp only [WrittenArray.keyedArray_keyed]

/-! ## Written arrays -/

/-- A kind of variables is read back from its name. -/
theorem variableKind_kindName (kind : VariableKind) :
    variableKind (.text (kindName kind)) = .ok kind := by
  cases kind <;> rfl

/-- A variable is read back from its tree. -/
theorem shaderVariable_variableTree (v : ShaderVariable) :
    shaderVariable (variableTree v) = .ok v :=
  record_recordTree
    (.cons rfl (text_text _) <| .cons rfl (text_text _) <|
      .cons rfl (variableKind_kindName v.kind) <| .cons rfl (bool_bool _) .nil)
    (by simp) (by simp)

/-- An array is read back from its tree, once its type is known. -/
theorem arrayOf_arrayTree (a : UniformArray) : arrayOf a.typeName (arrayTree a) = .ok a := by
  have hvariables := list_listTree shaderVariable_variableTree a.elements
  obtain ⟨typeName, name, _ | minifiedName, elements⟩ := a
  · exact record_recordTree
      (.cons rfl (text_text _) <| .cons rfl hvariables .nil) (by simp) (by simp)
  · exact record_recordTree
      (.cons rfl (text_text _) <|
        .cons rfl (optional_optionalTree (some minifiedName)) <| .cons rfl hvariables .nil)
      (by simp) (by simp)

/-- An array is written without a name that it does not have. -/
def WrittenArray.ofArray (a : UniformArray) : WrittenArray where
  typeName := a.typeName
  before := []
  after := [(.text "name", .text a.name)] ++
    (a.minifiedName.map fun name => (Tree.text "minifiedName", Tree.text name)).toList ++
    [(.text "variables", listTree variableTree a.elements)]
  before_untyped := by simp
  after_untyped := by cases a.minifiedName <;> simp [Tree.text?, Tree.untagged]

/-- The tree of uniform arrays holds them by type. -/
theorem arraysTree_eq (arrays : List UniformArray) :
    arraysTree arrays = .mapping (arrays.map fun a => (WrittenArray.ofArray a).keyed) := by
  have harray (a : UniformArray) :
      (.text a.typeName, arrayTree a) = (WrittenArray.ofArray a).keyed := by
    obtain ⟨typeName, name, _ | minifiedName, elements⟩ := a
    · rfl
    · rfl
  simp only [arraysTree, recordTree, List.map_map, Function.comp_def, harray]

/-- Arrays with distinct types are read back from their tree. -/
theorem uniformArrays_arraysTree {arrays : List UniformArray}
    (h : (arrays.map (·.typeName)).Nodup) : uniformArrays (arraysTree arrays) = .ok arrays := by
  have hentries : (arrays.map fun a => (Tree.text a.typeName, arrayTree a)).mapM keyedArray =
      .ok arrays :=
    mapM_map_of_forall fun a _ => arrayOf_arrayTree a
  rw [arraysTree, recordTree, List.map_map, uniformArrays_mapping, readArrays_eq_ok_iff (by simp)]
  exact ⟨arrays, hentries, h, rfl⟩

/-- Arrays with distinct types are read back from their list. -/
theorem uniformArrays_listTree {arrays : List UniformArray}
    (h : (arrays.map (·.typeName)).Nodup) :
    uniformArrays (listTree (fun a => (WrittenArray.ofArray a).listed) arrays) = .ok arrays := by
  -- The list is the other form of the tree.
  have hforms := uniformArrays_keyed (arrays.map WrittenArray.ofArray)
  rw [List.map_map, List.map_map] at hforms
  rw [listTree, ← uniformArrays_arraysTree h, arraysTree_eq]
  exact hforms.symm

/-! ## Loaded demos -/

/-- The uniform arrays of a shader that is read have distinct types. -/
theorem nodup_of_shader {t : Tree} {s : Shader} (h : shader t = .ok s) :
    (s.uniformArrays.map (·.typeName)).Nodup := by
  refine record_keeps (P := fun s : Shader => (s.uniformArrays.map (·.typeName)).Nodup) ?_
    (by simp) h
  simp only [List.forall_mem_cons]
  -- Only one field changes the uniform arrays.
  exact ⟨keeps_field fun _ _ _ _ h => h, keeps_field fun _ _ _ _ h => h,
    keeps_field fun _ _ _ _ h => h, keeps_field fun _ _ _ _ h => h,
    keeps_field fun _ _ _ _ h => h, keeps_field fun _ _ _ h _ => nodup_of_uniformArrays h,
    keeps_field fun _ _ _ _ h => h, keeps_field fun _ _ _ _ h => h, by simp⟩

/-- The uniform arrays of a demo that is read have distinct types. -/
theorem nodup_of_demo {t : Tree} {d : Demo} (h : demo t = .ok d) :
    (d.shader.uniformArrays.map (·.typeName)).Nodup := by
  refine record_keeps (P := fun d : Demo => (d.shader.uniformArrays.map (·.typeName)).Nodup) ?_
    (by simp) h
  simp only [List.forall_mem_cons]
  exact ⟨keeps_field fun _ _ _ h _ => nodup_of_shader h, keeps_field fun _ _ _ _ h => h, by simp⟩

/-- The uniform arrays of a demo that is loaded have distinct types. -/
theorem nodup_of_parse {text : String} {base : Path} {s after : Session} {d : Demo}
    (h : (parse text base).start s = (.ok d, after)) :
    (d.shader.uniformArrays.map (·.typeName)).Nodup := by
  unfold parse at h
  split at h
  · cases h
  · next t _ =>
    -- Whatever the references have been replaced by, the demo is read from some tree.
    rw [Action.start_bind] at h
    split at h
    · next resolved _ _ =>
      have hdemo : ofTree resolved = .ok d := congrArg Prod.fst h
      unfold ofTree at hdemo
      split at hdemo
      · next d' hread =>
        cases hdemo
        exact nodup_of_demo hread
      · cases hdemo
    · cases h

/-- Code with distinct uniform arrays is never refused because two of them have one type. -/
theorem assemble_ne_duplicate {s : Shader} (h : s.checkUniformArrays = .ok ()) (selector : Selector)
    (typeName : String) : s.assemble selector ≠ .error (.duplicateUniformArray typeName) := by
  intro herror
  cases selector with
  | program =>
    rw [Shader.assemble, h] at herror
    cases herror
  | stage stage pass =>
    rw [Shader.assemble, h, Shader.stageCode] at herror
    cases hcode : (s.pass? pass).bind (·.code? stage) with
    | none =>
      rw [hcode] at herror
      cases herror
    | some code =>
      rw [hcode] at herror
      cases herror

/-- Uniform arrays are distinct, and nothing complains that they are not. -/
structure Distinct (s : Shader) : Prop where
  /-- No two uniform arrays have one type. -/
  types : (s.uniformArrays.map (·.typeName)).Nodup
  /-- The check passes. -/
  check : s.checkUniformArrays = .ok ()
  /-- Assembling does not complain. -/
  assemble : ∀ selector typeName, s.assemble selector ≠ .error (.duplicateUniformArray typeName)
  /-- Rendering the data header does not complain. -/
  render : ∀ hooks context session typeName,
    ((DemoData.render ⟨s, hooks⟩ context).start session).1 ≠
      .error (.duplicateUniformArray typeName)

/-- Distinct types are all that is needed. -/
theorem distinct_of_nodup {s : Shader} (h : (s.uniformArrays.map (·.typeName)).Nodup) :
    Distinct s := by
  have hcheck := s.checkUniformArrays_eq_ok_iff.mpr h
  exact ⟨h, hcheck, assemble_ne_duplicate hcheck, fun hooks context session typeName herror =>
    DemoData.isSetting_of_start_render hcheck herror⟩

/-- A demo that is loaded has distinct uniform arrays, so that nothing complains later. Both forms
are read alike, distinct arrays are read back in their order from either, and a list in which a type
is repeated is refused because of the first array whose type has occurred. -/
theorem uniformArrays_distinct :
    (∀ text base s d after, (parse text base).start s = (.ok d, after) → Distinct d.shader) ∧
    (∀ arrays : List WrittenArray, uniformArrays (.mapping (arrays.map WrittenArray.keyed)) =
      uniformArrays (.sequence (arrays.map WrittenArray.listed))) ∧
    (∀ arrays, (arrays.map (·.typeName)).Nodup →
      uniformArrays (arraysTree arrays) = .ok arrays ∧
      uniformArrays (listTree (fun a => (WrittenArray.ofArray a).listed) arrays) = .ok arrays) ∧
    ∀ items arrays, items.mapM typedArray = .ok arrays → ¬ (arrays.map (·.typeName)).Nodup →
      ∃ first a rest, arrays = first ++ a :: rest ∧ (first.map (·.typeName)).Nodup ∧
        a.typeName ∈ first.map (·.typeName) ∧
        uniformArrays (.sequence items) = .error (.repeatedType a.typeName) := by
  refine ⟨fun text base s d after h => distinct_of_nodup (nodup_of_parse h), uniformArrays_keyed,
    fun arrays h => ⟨uniformArrays_arraysTree h, uniformArrays_listTree h⟩,
    fun items arrays hitems hrepeated => ?_⟩
  have hnil : (([] : List UniformArray).map (·.typeName)).Nodup := List.nodup_nil
  obtain ⟨first, a, rest, harrays, hfirst, ha, herror⟩ :=
    readArrays_eq_repeated hnil hitems hrepeated
  exact ⟨first, a, rest, harrays, hfirst, ha, herror⟩

/-- A manifest with a uniform array. -/
def floatsText : String :=
  "shader:\n  uniformArrays:\n    float:\n      name: v\n"

/-- The demo of that manifest. -/
def floats : Demo where
  shader := { uniformArrays := [⟨"float", "v", none, []⟩] }

/-- Arrays the last of which has the type of the first. -/
def repeatedFloats : List UniformArray :=
  [⟨"float", "v", none, []⟩, ⟨"vec4", "w", none, []⟩, ⟨"float", "x", none, []⟩]

/-- The manifest is loaded, so that its array is distinct; the repeated type is refused. -/
theorem uniformArrays_distinct_floats :
    ((parse floatsText ⟨""⟩).start ⟨.empty, [], []⟩).1.toOption = some floats ∧
      Distinct floats.shader ∧
      uniformArrays (listTree (fun a => (WrittenArray.ofArray a).listed) repeatedFloats) =
        .error (.repeatedType "float") := by
  obtain ⟨hdistinct, -, -, hrepeated⟩ := uniformArrays_distinct
  have hloaded : ((parse floatsText ⟨""⟩).start ⟨.empty, [], []⟩).1.toOption = some floats := by
    decide +kernel
  refine ⟨hloaded, ?_, ?_⟩
  · cases hended : (parse floatsText ⟨""⟩).start ⟨.empty, [], []⟩ with
    | mk result after =>
      rw [hended] at hloaded
      cases result with
      | error e => cases hloaded
      | ok d =>
        obtain rfl := Option.some.inj hloaded
        exact hdistinct _ _ _ _ _ hended
  · obtain ⟨first, a, rest, harrays, hfirst, ha, herror⟩ :=
      hrepeated (repeatedFloats.map fun a => (WrittenArray.ofArray a).listed) repeatedFloats rfl
        (by decide)
    -- no other array shares its type with one before it
    have hfloat : a.typeName = "float" := by
      rcases first with _ | ⟨b, _ | ⟨c, _ | ⟨d, first⟩⟩⟩ <;> grind [repeatedFloats]
    rw [listTree, herror, hfloat]

end DemoBuild.Manifest
