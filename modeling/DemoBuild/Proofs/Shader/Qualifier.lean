import DemoBuild.Proofs.Shader.Listing

/-!
# Text that is qualified already

Qualified declarations are declarations with something in front of them, so they can be qualified
again. A declaration ends at its semicolon and its type begins behind the space in front of it:
what stands in front of that space is searched on its own. So the declarations that are found in
qualified text are the old ones, in the old order, and in front of each of them those that are found
in the qualifier itself. A qualifier without declarations, as every single word is, is replaced.

## Main definitions

* `Word.text`: a word as a text;
* `Shader.requalified`: a shader whose interface blocks carry qualifiers.

## Main results

* `Declaration.findAll_qualify`: the declarations that are found in qualified text;
* `qualify_qualify_eq_iff`: which qualifiers are replaced;
* `qualify_qualify`: words are, so a stage sees a qualified block as it sees the block.
-/

namespace DemoBuild

namespace Declaration

/-- No declaration starts with a character that is no part of a word. -/
theorem findAll_cons_of_isWord_eq_false {c : Char} (h : Text.isWord c = false) (text : List Char) :
    findAll (c :: text) = findAll text := by
  refine findAll_of_none (Option.eq_none_iff_forall_ne_some.mpr ?_)
  rintro ⟨d, after⟩ hstart
  obtain ⟨hd, heq⟩ := atStart?_eq_some_iff.mp hstart
  obtain ⟨first, typeName, htype⟩ := List.exists_cons_of_ne_nil hd.typeName_ne_nil
  obtain rfl : c = first := by simpa [Declaration.text, htype] using congrArg List.head? heq
  have hword := hd.isWord c (htype ▸ List.mem_cons_self)
  simp [h] at hword

/-- What is found is spelled as declarations are. -/
theorem written_of_mem_findAll {text : List Char} {d : Declaration} (h : d ∈ findAll text) :
    d.Written := by
  induction text using findAll.induct with
  | case1 => simp [findAll_nil] at h
  | case2 c text first rest hfound _ ih =>
    rw [findAll_of_some hfound, List.mem_cons] at h
    rcases h with rfl | hrest
    · exact (atStart?_eq_some_iff.mp hfound).1
    · exact ih hrest
  | case3 c text hfound ih =>
    rw [findAll_of_none hfound] at h
    exact ih h

/-- Behind a text and a space a declaration is found behind those of the text. -/
theorem findAll_append_space_text (front : List Char) {d : Declaration} (hd : d.Written) :
    findAll (front ++ ' ' :: d.text) = findAll front ++ [d] := by
  -- the text is cut behind its last semicolon: nothing is found in what follows it
  have hstart : ∀ c ∈ (front.rdropWhile (· ≠ ';')).getLast?, c = ';' := fun c hc => by
    simpa using Text.getLast?_rdropWhile _ _ c hc
  have hrest : ';' ∉ front.rtakeWhile (· ≠ ';') := fun hmem => by
    simpa using List.mem_rtakeWhile_imp hmem
  have hcut : front.rdropWhile (· ≠ ';') ++ front.rtakeWhile (· ≠ ';') = front :=
    List.rdropWhile_append_rtakeWhile
  generalize front.rdropWhile (· ≠ ';') = start at hstart hcut
  generalize front.rtakeWhile (· ≠ ';') = rest at hrest hcut
  subst hcut
  have hspace : findAll (rest ++ [' '] ++ d.text) = [d] :=
    findAll_append_text hd (by simpa using hrest) (by simp)
  calc findAll (start ++ rest ++ ' ' :: d.text)
      = findAll (start ++ (rest ++ [' '] ++ d.text)) := by simp
    _ = findAll start ++ [d] := by rw [findAll_append hstart, hspace]
    _ = findAll (start ++ rest) ++ [d] := by
      rw [findAll_append hstart, findAll_of_not_mem hrest, List.append_nil]

/-- What is found in a qualified declaration and in the text behind it. -/
theorem findAll_qualified_append (q : List Char) {d : Declaration} (hd : d.Written)
    (rest : List Char) :
    findAll (qualified q d ++ rest) = findAll q ++ [d] ++ findAll rest := by
  have hline : qualified q d ++ rest = (q ++ ' ' :: d.text) ++ '\n' :: rest := by
    simp [qualified]
  have hlast : ∀ c ∈ (q ++ ' ' :: d.text).getLast?, c = ';' := by
    rw [Declaration.text, ← List.cons_append, ← List.append_assoc, List.getLast?_concat]
    simp
  rw [hline, findAll_append hlast, findAll_append_space_text q hd,
    findAll_cons_of_isWord_eq_false (by decide)]

/-- What is found in qualified declarations: each of them, behind what is found in the qualifier. -/
theorem findAll_flatMap_qualified (q : List Char) {ds : List Declaration}
    (hds : ∀ d ∈ ds, d.Written) :
    findAll (ds.flatMap (qualified q)) = ds.flatMap fun d => findAll q ++ [d] := by
  induction ds with
  | nil => exact findAll_nil
  | cons d ds ih =>
    obtain ⟨hd, hds⟩ := List.forall_mem_cons.mp hds
    rw [List.flatMap_cons, findAll_qualified_append q hd, ih hds, List.flatMap_cons]

theorem toList_qualify (block q : String) :
    (qualify block q).toList = (findAll block.toList).flatMap (qualified q.toList) := by
  rw [qualify, String.toList_ofList]

/-- What is found in qualified text. -/
theorem findAll_qualify (block q : String) :
    findAll (qualify block q).toList =
      (findAll block.toList).flatMap fun d => findAll q.toList ++ [d] := by
  rw [toList_qualify]
  exact findAll_flatMap_qualified _ fun _ => written_of_mem_findAll

/-- A qualifier without declarations adds none. -/
theorem findAll_qualify_of_eq_nil (block : String) {q : String} (h : findAll q.toList = []) :
    findAll (qualify block q).toList = findAll block.toList := by
  rw [findAll_qualify, h]
  exact List.flatMap_singleton' _

theorem qualified_ne_nil (q : List Char) (d : Declaration) : qualified q d ≠ [] := by
  simp [qualified]

end Declaration

/-- A text whose declarations are the same is qualified alike. -/
theorem qualify_congr {block block' : String}
    (h : Declaration.findAll block.toList = Declaration.findAll block'.toList) (q : String) :
    qualify block q = qualify block' q := by
  rw [qualify, h, ← qualify]

/-- The qualifiers that are replaced when a text is qualified again are those in which no
declaration stands. -/
theorem qualify_qualify_eq_iff {q : String} :
    (∀ block q', qualify (qualify block q) q' = qualify block q') ↔
      Declaration.findAll q.toList = [] := by
  constructor
  · intro h
    -- a block with one declaration would get those of the qualifier as well
    have hblock : Declaration.findAll "a b;".toList = [⟨['a'], ['b']⟩] := by decide +kernel
    have hagain := congrArg String.toList (h "a b;" "")
    simp only [Declaration.toList_qualify _ "", Declaration.findAll_qualify, hblock,
      List.flatMap_singleton, List.flatMap_append, List.append_left_eq_self,
      List.flatMap_eq_nil_iff] at hagain
    exact List.eq_nil_iff_forall_not_mem.mpr fun d hd =>
      Declaration.qualified_ne_nil _ d (hagain d hd)
  · intro h block q'
    exact qualify_congr (Declaration.findAll_qualify_of_eq_nil block h) q'

/-- A declaration in the qualifier is found again. -/
example : qualify (qualify "vec3 a;" "flat int b; in") "out" = "out int b;\nout vec3 a;\n" := by
  decide +kernel

/-- The word as a text. -/
def Word.text (w : Word) : String :=
  String.ofList w.chars

/-- No declaration stands in a word. -/
theorem Word.findAll_text (w : Word) : Declaration.findAll w.text.toList = [] := by
  rw [Word.text, String.toList_ofList]
  exact Declaration.findAll_of_not_mem w.semicolon_not_mem

/-- Text without anything but white space has no declarations. -/
theorem qualify_of_isBlankText {code : String} (h : Text.isBlankText code = true) (q : String) :
    qualify code q = "" := by
  have hsemicolon : ';' ∉ code.toList := fun hmem =>
    absurd (List.all_eq_true.mp h _ hmem) (by decide)
  rw [qualify, Declaration.findAll_of_not_mem hsemicolon]
  rfl

/-! ## Interfaces -/

/-- A text that is missing adds as much to joined texts as an empty one: nothing. -/
theorem Text.join_filterMap {α : Type} (f : α → Option String) (l : List α) :
    String.join (l.filterMap f) = String.join (l.map fun a => (f a).getD "") := by
  induction l with
  | nil => rfl
  | cons a l ih => cases h : f a <;> simp [h, ih]

namespace Shader

/-- A block that is blank adds as much to an interface as its text does: nothing. -/
theorem getD_map_qualify_blockOf (code : Option String) (q : String) :
    ((blockOf code).map (qualify · q)).getD "" = (code.map (qualify · q)).getD "" := by
  cases code with
  | none => rfl
  | some code =>
    cases hblank : Text.isBlankText code with
    | true => simp [blockOf, Option.filter_some, hblank, qualify_of_isBlankText hblank]
    | false => simp [blockOf, Option.filter_some, hblank]

/-- The interface of a stage is what its blocks give as they are written. -/
theorem interfaces_get_eq_join_writtenBlocks (s : Shader) (stage : Stage) :
    s.interfaces.get stage =
      String.join ((s.writtenBlocks stage).map fun (code, q) =>
        (code.map (qualify · q)).getD "") := by
  rw [interfaces_get_eq_join, Text.join_filterMap]
  cases stage <;>
    simp [interfaceBlocks, writtenBlocks, InterfaceBlock.qualified?, attributes?, varyings?,
      outputs?, getD_map_qualify_blockOf]

/-- The shader whose interface blocks carry qualifiers in front of their declarations. -/
def requalified (s : Shader) (attributes varyings outputs : Word) : Shader :=
  { s with
    attributesCode := s.attributesCode.map (qualify · attributes.text)
    varyingsCode := s.varyingsCode.map (qualify · varyings.text)
    outputsCode := s.outputsCode.map (qualify · outputs.text) }

end Shader

/-- A text whose declarations carry a word as their qualifier is qualified as the text itself is: no
declaration is qualified twice, none is lost, and their order stays. So a stage has the same
interface whether or not the blocks it sees carry qualifiers. -/
theorem qualify_qualify :
    (∀ (block : String) (q₁ q₂ : Word),
      qualify (qualify block q₁.text) q₂.text = qualify block q₂.text ∧
      Declaration.findAll (qualify block q₁.text).toList = Declaration.findAll block.toList) ∧
    ∀ (s : Shader) (attributes varyings outputs : Word),
      (s.requalified attributes varyings outputs).interfaces = s.interfaces := by
  have hagain (block : String) (w : Word) (q : String) :
      qualify (qualify block w.text) q = qualify block q :=
    qualify_qualify_eq_iff.mpr w.findAll_text block q
  refine ⟨fun block q₁ q₂ => ⟨hagain block q₁ _,
    Declaration.findAll_qualify_of_eq_nil block q₁.findAll_text⟩, fun s a v o => ?_⟩
  have hinterface (stage : Stage) :
      (s.requalified a v o).interfaces.get stage = s.interfaces.get stage := by
    rw [Shader.interfaces_get_eq_join_writtenBlocks, Shader.interfaces_get_eq_join_writtenBlocks]
    cases stage <;>
      simp [Shader.writtenBlocks, Shader.requalified, Function.comp_def, hagain]
  exact congrArg₂ Interfaces.mk (hinterface .vertex) (hinterface .fragment)

end DemoBuild
