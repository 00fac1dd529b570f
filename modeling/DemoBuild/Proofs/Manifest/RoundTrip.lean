import DemoBuild.Proofs.Dictionary
import DemoBuild.Proofs.Manifest.References
import DemoBuild.Proofs.Manifest.UniformArrays

/-!
# Demos and their manifests

The tree that a demo is written as describes that demo and no other: every field is read back as it
was written, in its order. The tree refers to no files, whatever the names in it are, so that
loading it from a text touches neither files nor log.

## Main definitions

* `Manifest.Plain`: a tree refers to no files.

## Main results

* `Manifest.resolve_of_plain`: a tree without references is left as it is;
* `Manifest.plain_demoTree` and `Manifest.demo_demoTree`: the tree of a demo;
* `Manifest.parse_demoTree`: a demo is loaded from the text that it is written as.
-/

namespace DemoBuild

namespace Manifest

open Yaml (Tree Reader)
open Yaml.Reader

/-! ## Reading what is written -/

/-- A pass is read back from its tree. -/
theorem pass_passTree (p : Pass) : pass (passTree p) = .ok p :=
  record_recordTree
    (.cons rfl (optional_optionalTree _) <| .cons rfl (optional_optionalTree _) .nil) (by simp)
    (by simp)

/-- A shader with distinct uniform arrays is read back from its tree. -/
theorem shader_shaderTree {s : Shader} (h : (s.uniformArrays.map (·.typeName)).Nodup) :
    shader (shaderTree s) = .ok s :=
  record_recordTree
    (.cons rfl (optional_optionalTree _) <| .cons rfl (text_text _) <|
      .cons rfl (optional_optionalTree _) <| .cons rfl (optional_optionalTree _) <|
      .cons rfl (optional_optionalTree _) <| .cons rfl (uniformArrays_arraysTree h) <|
      .cons rfl (list_listTree shaderVariable_variableTree _) <|
      .cons rfl (list_listTree pass_passTree _) .nil)
    (by simp) (by simp)

/-- A source in assembly language is read back from its tree. -/
theorem assemblySource_sourceTree (s : AssemblySource) :
    assemblySource (sourceTree s.output s.source s.includes) = .ok s :=
  record_recordTree
    (.cons rfl (text_text _) <| .cons rfl (text_text _) <|
      .cons rfl (list_listTree text_text _) .nil)
    (by simp) (by simp)

/-- A source in C++ is read back from its tree. -/
theorem cppSource_sourceTree (s : CppSource) :
    cppSource (sourceTree s.output s.source s.includes) = .ok s :=
  record_recordTree
    (.cons rfl (text_text _) <| .cons rfl (text_text _) <|
      .cons rfl (list_listTree text_text _) .nil)
    (by simp) (by simp)

/-- The assembly part is read back from its tree. -/
theorem assemblyPart_assemblyTree (p : AssemblyPart) :
    assemblyPart (assemblyTree p) = .ok p :=
  record_recordTree
    (.cons rfl (list_listTree text_text _) <|
      .cons rfl (list_listTree assemblySource_sourceTree _) .nil)
    (by simp) (by simp)

/-- Hooks are read back from their tree, in the order of their names. -/
theorem hooks_recordTree (d : Dictionary String) :
    hooks (recordTree (d.entries.map fun (name, code) => (name, .text code))) = .ok d := by
  have hentries : (d.entries.map fun entry => (Tree.text entry.1, Tree.text entry.2)).mapM
      (fun (entry : Tree × Tree) => do
        let key ← Reader.text entry.1
        return (key, ← Reader.text entry.2)) = .ok d.entries :=
    mapM_map_of_forall fun _ _ => rfl
  rw [recordTree, List.map_map]
  change (List.mapM (m := Except Yaml.Mismatch) _ _ >>= _) = _
  rw [Function.comp_def, hentries]
  -- The entries ascend already, so that a dictionary of them has them in the same order.
  exact congrArg Except.ok d.ofList_entries

/-- The C++ part is read back from its tree. -/
theorem cppPart_cppTree (p : CppPart) : cppPart (cppTree p) = .ok p :=
  record_recordTree
    (.cons rfl (list_listTree text_text _) <|
      .cons rfl (list_listTree cppSource_sourceTree _) <|
      .cons rfl (hooks_recordTree p.hooks) .nil)
    (by simp) (by simp)

/-- What to compile is read back from its tree. -/
theorem compilation_compilationTree (c : Compilation) :
    compilation (compilationTree c) = .ok c :=
  record_recordTree
    (.cons rfl (assemblyPart_assemblyTree _) <| .cons rfl (cppPart_cppTree _) <|
      .cons rfl (list_listTree text_text _) <| .cons rfl (list_listTree text_text _) .nil)
    (by simp) (by simp)

/-- A demo with distinct uniform arrays is read back from its tree. -/
theorem demo_demoTree {d : Demo} (h : (d.shader.uniformArrays.map (·.typeName)).Nodup) :
    demo (demoTree d) = .ok d :=
  record_recordTree
    (.cons rfl (shader_shaderTree h) <| .cons rfl (compilation_compilationTree _) .nil) (by simp)
    (by simp)

/-! ## Trees without references -/

/-- The tree refers to no files. -/
inductive Plain : Tree → Prop
  | null : Plain .null
  | bool (b : Bool) : Plain (.bool b)
  | text (s : String) : Plain (.text s)
  | sequence {items : List Tree} : (∀ t ∈ items, Plain t) → Plain (.sequence items)
  | mapping {entries : List (Tree × Tree)} :
    (∀ entry ∈ entries, entryReference? entry.1 entry.2 = none) →
    (∀ entry ∈ entries, Plain entry.2) → Plain (.mapping entries)

/-- A tree that refers to no files is left as it is. -/
theorem resolve_of_plain {t : Tree} (h : Plain t) (base : Path) : resolve base t = pure t := by
  induction h with
  | null => rfl
  | bool b => rfl
  | text s => rfl
  | sequence h ih => rw [resolve, resolveItems_of_forall ih, map_pure]
  | mapping hreferences hvalues ih =>
    rw [resolve, resolveEntries_of_forall hreferences ih, map_pure]

/-- What is no reference is none under any key. -/
theorem entryReference?_eq_none {key value : Tree} (h : reference? value = none) :
    entryReference? key value = none := by
  rw [entryReference?, h, ite_self]

/-- A record refers to no files if none of its fields does. -/
theorem plain_recordTree {fields : List (String × Tree)}
    (h : ∀ f ∈ fields, entryReference? (.text f.1) f.2 = none ∧ Plain f.2) :
    Plain (recordTree fields) := by
  refine .mapping ?_ ?_
  · intro entry hentry
    obtain ⟨f, hf, rfl⟩ := List.mem_map.mp hentry
    exact (h f hf).1
  · intro entry hentry
    obtain ⟨f, hf, rfl⟩ := List.mem_map.mp hentry
    exact (h f hf).2

/-- A list refers to no files if none of its items does. -/
theorem plain_listTree {α : Type} {write : α → Tree} (h : ∀ a, Plain (write a)) (items : List α) :
    Plain (listTree write items) := by
  refine .sequence fun t ht => ?_
  obtain ⟨a, -, rfl⟩ := List.mem_map.mp ht
  exact h a

/-- A text that may be absent refers to no files. -/
theorem plain_optionalTree (s : Option String) : Plain (optionalTree s) := by
  cases s with
  | none => exact .null
  | some s => exact .text s

/-- A text that may be absent is no reference. -/
theorem reference?_optionalTree (s : Option String) : reference? (optionalTree s) = none := by
  cases s <;> rfl

/-- A variable refers to no files. -/
theorem plain_variableTree (v : ShaderVariable) : Plain (variableTree v) := by
  refine plain_recordTree ?_
  simp only [List.forall_mem_cons]
  exact ⟨⟨rfl, .text _⟩, ⟨rfl, .text _⟩, ⟨rfl, .text _⟩, ⟨rfl, .bool _⟩, by simp⟩

/-- A uniform array refers to no files. -/
theorem plain_arrayTree (a : UniformArray) : Plain (arrayTree a) := by
  have hvariables := plain_listTree plain_variableTree a.elements
  refine plain_recordTree ?_
  cases a.minifiedName with
  | none =>
    simp only [Option.map_none, Option.toList_none, List.append_nil, List.cons_append,
      List.nil_append, List.forall_mem_cons]
    exact ⟨⟨rfl, .text _⟩, ⟨rfl, hvariables⟩, by simp⟩
  | some name =>
    simp only [Option.map_some, Option.toList_some, List.cons_append, List.nil_append,
      List.forall_mem_cons]
    exact ⟨⟨rfl, .text _⟩, ⟨rfl, .text _⟩, ⟨rfl, hvariables⟩, by simp⟩

/-- A uniform array is no reference: it has at least two entries. -/
theorem reference?_arrayTree (a : UniformArray) : reference? (arrayTree a) = none := by
  obtain ⟨typeName, name, _ | minifiedName, elements⟩ := a <;> rfl

/-- Uniform arrays refer to no files, whatever the names of their types are. -/
theorem plain_arraysTree (arrays : List UniformArray) : Plain (arraysTree arrays) := by
  refine plain_recordTree fun f hf => ?_
  obtain ⟨a, -, rfl⟩ := List.mem_map.mp hf
  -- The type may be called like a code field, but what stands under it is no reference.
  exact ⟨entryReference?_eq_none (reference?_arrayTree a), plain_arrayTree a⟩

/-- A pass refers to no files. -/
theorem plain_passTree (p : Pass) : Plain (passTree p) := by
  refine plain_recordTree ?_
  simp only [List.forall_mem_cons]
  exact ⟨⟨entryReference?_eq_none (reference?_optionalTree _), plain_optionalTree _⟩,
    ⟨entryReference?_eq_none (reference?_optionalTree _), plain_optionalTree _⟩, by simp⟩

/-- A shader refers to no files. -/
theorem plain_shaderTree (s : Shader) : Plain (shaderTree s) := by
  have hcode (name : String) (code : Option String) :
      entryReference? (.text name) (optionalTree code) = none ∧ Plain (optionalTree code) :=
    ⟨entryReference?_eq_none (reference?_optionalTree code), plain_optionalTree code⟩
  refine plain_recordTree ?_
  simp only [List.forall_mem_cons]
  -- A mapping with the only key `file` is no reference here, as `uniformArrays` is no code field.
  exact ⟨hcode _ _, ⟨rfl, .text _⟩, hcode _ _, hcode _ _, hcode _ _, ⟨rfl, plain_arraysTree _⟩,
    ⟨rfl, plain_listTree plain_variableTree _⟩, ⟨rfl, plain_listTree plain_passTree _⟩, by simp⟩

/-- A source refers to no files. -/
theorem plain_sourceTree (output source : String) (includes : List String) :
    Plain (sourceTree output source includes) := by
  refine plain_recordTree ?_
  simp only [List.forall_mem_cons]
  exact ⟨⟨rfl, .text _⟩, ⟨rfl, .text _⟩, ⟨rfl, plain_listTree .text _⟩, by simp⟩

/-- The assembly part refers to no files. -/
theorem plain_assemblyTree (p : AssemblyPart) : Plain (assemblyTree p) := by
  refine plain_recordTree ?_
  simp only [List.forall_mem_cons]
  exact ⟨⟨rfl, plain_listTree .text _⟩,
    ⟨rfl,
      plain_listTree (fun s : AssemblySource => plain_sourceTree s.output s.source s.includes) _⟩,
    by simp⟩

/-- The C++ part refers to no files, whatever the names of its hooks are. -/
theorem plain_cppTree (p : CppPart) : Plain (cppTree p) := by
  have hhooks :
      Plain (recordTree (p.hooks.entries.map fun (name, code) => (name, .text code))) := by
    refine plain_recordTree fun f hf => ?_
    obtain ⟨entry, -, rfl⟩ := List.mem_map.mp hf
    exact ⟨entryReference?_eq_none rfl, .text _⟩
  refine plain_recordTree ?_
  simp only [List.forall_mem_cons]
  exact ⟨⟨rfl, plain_listTree .text _⟩,
    ⟨rfl, plain_listTree (fun s : CppSource => plain_sourceTree s.output s.source s.includes) _⟩,
    ⟨rfl, hhooks⟩, by simp⟩

/-- What to compile refers to no files. -/
theorem plain_compilationTree (c : Compilation) : Plain (compilationTree c) := by
  refine plain_recordTree ?_
  simp only [List.forall_mem_cons]
  exact ⟨⟨rfl, plain_assemblyTree _⟩, ⟨rfl, plain_cppTree _⟩, ⟨rfl, plain_listTree .text _⟩,
    ⟨rfl, plain_listTree .text _⟩, by simp⟩

/-- A demo refers to no files. -/
theorem plain_demoTree (d : Demo) : Plain (demoTree d) := by
  refine plain_recordTree ?_
  simp only [List.forall_mem_cons]
  exact ⟨⟨rfl, plain_shaderTree _⟩, ⟨rfl, plain_compilationTree _⟩, by simp⟩

/-! ## Loading what is written -/

/-- The demo that is read from a tree is the one that the tree describes. -/
theorem ofTree_of_demo {t : Tree} {d : Demo} (h : demo t = .ok d) : ofTree t = .ok d := by
  simp only [ofTree, h]

/-- A demo is loaded if it is read from the document, in which nothing is to be replaced. -/
theorem parse_eq_pure {text : String} {base : Path} {t : Tree} {d : Demo}
    (htext : Yaml.Tree.parse text = .ok t) (hresolve : resolve base t = pure t)
    (htree : ofTree t = .ok d) : parse text base = pure d := by
  unfold parse
  split
  · next problem hproblem =>
    rw [htext] at hproblem
    cases hproblem
  · next t' ht' =>
    rw [htext] at ht'
    cases ht'
    rw [hresolve, pure_bind, htree]
    rfl

/-- A demo with distinct uniform arrays is written as a tree without references, which describes it.
Loaded from any text that holds the tree, it is the same again, and neither files nor log are
touched. -/
theorem parse_demoTree (d : Demo) (base : Path)
    (h : (d.shader.uniformArrays.map (·.typeName)).Nodup) :
    resolve base (demoTree d) = pure (demoTree d) ∧ ofTree (demoTree d) = .ok d ∧
      ∀ text, Yaml.Tree.parse text = .ok (demoTree d) → parse text base = pure d := by
  have hresolve := resolve_of_plain (plain_demoTree d) base
  have htree := ofTree_of_demo (demo_demoTree h)
  exact ⟨hresolve, htree, fun text htext => parse_eq_pure htext hresolve htree⟩

/-- A demo with names that could be taken for those of code fields and files. -/
def codeNames : Demo where
  shader :=
    { commonCode := "file"
      uniformArrays :=
        [⟨"floatCode", "file", some "Code", [⟨"time", "float", .uniform, false⟩]⟩,
          ⟨"file", "vertexCode", none, []⟩]
      vars := [⟨"fileCode", "", .constant, true⟩, ⟨"file", "", .global, true⟩]
      passes := [⟨some "", none⟩] }
  compilation := { cpp := { hooks := Dictionary.empty.insert "fileCode" "file" } }

/-- Names in a demo do not matter. -/
theorem parse_demoTree_codeNames :
    resolve ⟨"demo"⟩ (demoTree codeNames) = pure (demoTree codeNames) ∧
      ofTree (demoTree codeNames) = .ok codeNames ∧
      ∀ text, Yaml.Tree.parse text = .ok (demoTree codeNames) →
        parse text ⟨"demo"⟩ = pure codeNames :=
  parse_demoTree codeNames ⟨"demo"⟩ (by decide)

end Manifest

end DemoBuild
