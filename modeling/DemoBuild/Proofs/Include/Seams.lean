import DemoBuild.Proofs.Include.Conservation

/-!
# Directives in an expanded text

What has been put into the place of a directive is not searched again. The text that comes out is
joined from pieces that hold no directive, but where two pieces meet a new one can arise: it starts
at the end of a piece and goes on in the next ones. It does not if no piece ends with the beginning
of a directive. Expanding a text again leaves it as it is exactly if it holds no directive.

## Main definitions

* `Directive.Begun`: a text ends with the beginning of a directive.

## Main results

* `Composes.straddles`: where a directive stands in an expanded text;
* `Composes.free_of_not_begun`: when there is none;
* `Flattener.free_iff_flatten_eq`: when expanding a text again leaves it as it is;
* `Flattener.flatten_joins_free_pieces`: what flattening a file gives.
-/

namespace DemoBuild

namespace Directive

/-- The text ends with the beginning of a directive, which is not all of it. -/
def Begun (text : List Char) : Prop :=
  ∃ d begun, Written d ∧ begun ≠ [] ∧ begun <:+ text ∧ begun <+: d.text ∧ begun ≠ d.text

/-- The beginning of a directive has the mark that directives start with. -/
theorem Begun.hash_mem {text : List Char} (h : Begun text) : '#' ∈ text := by
  obtain ⟨d, begun, ⟨blanks, delimited, -, -, htext⟩, hne, hends, hbegun, -⟩ := h
  apply hends.subset
  obtain ⟨c, more, rfl⟩ := List.exists_cons_of_ne_nil hne
  rw [htext, show keyword = '#' :: "include".toList from rfl, List.cons_append, List.cons_append,
    List.cons_prefix_cons] at hbegun
  rw [hbegun.1]
  exact List.mem_cons_self

/-- A directive that goes on behind a piece begins in it. -/
theorem Straddles.exists_begun {pieces : List (List Char)} {before : List Char} {d : Directive}
    (hd : Written d) (h : Straddles pieces before d) : ∃ piece ∈ pieces, Begun piece := by
  obtain ⟨front, start, begun, others, rfl, -, hne, hbegun, hpart⟩ := h
  exact ⟨start ++ begun, by simp, d, begun, hd, hne, List.suffix_append _ _, hbegun, hpart⟩

end Directive

namespace Composes

variable {read : Path → Except FileError String} {root : Path} {met : List Path}
  {files : List FileText} {pieces : List (List Char)}

/-- Each piece is kept of one of the files. -/
theorem exists_mem_kept (h : Composes read (.file root) met files pieces) :
    ∀ piece ∈ pieces, ∃ file ∈ files, piece ∈ file.cut.kept := by
  intro piece hpiece
  have hkept := h.perm_kept.mem_iff.mp hpiece
  rwa [Expandable.kept, List.nil_append, List.mem_flatMap] at hkept

/-- A directive in the text goes on behind the piece in which it starts. -/
theorem straddles (h : Composes read (.file root) met files pieces) {before after : List Char}
    {d : Directive} (hd : Directive.Written d)
    (hsplit : pieces.flatten = before ++ d.text ++ after) :
    Directive.Straddles pieces before d := by
  refine Directive.straddles_of_flatten_eq (fun piece hpiece => ?_) hd hsplit
  obtain ⟨file, -, hkept⟩ := h.exists_mem_kept piece hpiece
  exact Directive.free_of_mem_kept hkept

/-- There is no directive in the text if no piece ends with the beginning of one. -/
theorem free_of_not_begun (h : Composes read (.file root) met files pieces)
    (hbegun : ∀ piece ∈ pieces, ¬ Directive.Begun piece) : Directive.Free pieces.flatten := by
  intro before d after hd hsplit
  obtain ⟨piece, hpiece, hends⟩ := (h.straddles hd hsplit).exists_begun hd
  exact hbegun piece hpiece hends

/-- If the file names no other one that can be read, nothing else is read. -/
theorem files_eq_singleton {text : String} (h : Composes read (.file root) [] files pieces)
    (hread : read root = .ok text)
    (honly : ∀ p q text, Includes read p q → read q = .ok text → q = root) :
    files = [⟨root, text⟩] := by
  have hnodup := h.nodup List.nodup_nil (by simp)
  have hroot : ∀ file ∈ files, ∀ text, read file.path = .ok text → file.path = root :=
    h.forall_of_asks (by simp [Expandable.asks])
      fun p q _ hincludes text hq => honly p q text hincludes hq
  have hall := h.read_eq
  cases h with
  | @readable _ text' _ others _ hread' htext =>
    obtain rfl : text = text' := by simpa [hread] using hread'
    -- another file would be the root once more
    have hnone : others = [] := by
      rw [List.eq_nil_iff_forall_not_mem]
      intro file hfile
      have hpath := hroot file (List.mem_cons_of_mem _ hfile) _
        (hall file (List.mem_cons_of_mem _ hfile))
      rw [List.nil_append, List.map_cons, List.nodup_cons] at hnodup
      exact hnodup.1 (List.mem_map.mpr ⟨file, hfile, hpath⟩)
    rw [hnone]

/-- A file of which all is kept holds no directive. -/
theorem free_of_files_eq_singleton {text : String}
    (h : Composes read (.file root) met [⟨root, text⟩] pieces)
    (hsame : pieces.flatten = text.toList) : Directive.Free text.toList := by
  have hsize := h.weight_pieces fun _ => 1
  rw [hsame] at hsize
  simp only [List.map_cons, List.map_nil, List.sum_cons, List.sum_nil, Nat.add_zero,
    Nat.add_eq_left] at hsize
  rw [← Directive.directives_cut_eq_nil_iff, List.eq_nil_iff_forall_not_mem]
  intro d hd
  -- a directive has characters, which would be missing
  have hzero := List.sum_eq_zero_iff_forall_eq_nat.mp hsize _ (List.mem_map_of_mem hd)
  have hpos := List.length_pos_iff.mpr (Directive.written_of_mem_directives hd).ne_nil
  rw [Text.weight_one] at hzero
  omega

end Composes

namespace Flattener

/-- A text is left as it is by flattening files that hold it if and only if there is no directive in
it. -/
theorem free_iff_flatten_eq {s : List Char} :
    Directive.Free s ↔ ∀ (sources : Sources) (f : Flattener) (root : Path),
      sources.readPath root.normalize = .ok (String.ofList s) →
        (f.flatten sources root).outcome = .ok s := by
  have hs : (String.ofList s).toList = s := String.toList_ofList
  constructor
  · intro hfree sources f root hread
    have hplain : DepthFirst sources.readPath (.text root.normalize.parent (String.ofList s).toList)
        [root.normalize] [root.normalize] (.ok s) := by
      rw [hs]
      exact .plain hfree
    exact outcome_of_depthFirst f (.readable hread hplain)
  · intro hsame
    -- the file that holds the text is the only one
    let only := Sources.ofFiles [⟨⟨"a"⟩, String.ofList s⟩]
    have hread : only.readPath ⟨"a"⟩ = .ok (String.ofList s) := Sources.readPath_ofFiles_singleton _
    have hflatten := depthFirst_flatten only initial ⟨"a"⟩
    rw [hsame only initial ⟨"a"⟩ hread] at hflatten
    obtain ⟨files, pieces, hcomposes, -, hpieces⟩ := hflatten.composes
    have hfiles := hcomposes.files_eq_singleton hread ?_
    · rw [hfiles] at hcomposes
      have hfree := hcomposes.free_of_files_eq_singleton (hpieces.trans hs.symm)
      rwa [hs] at hfree
    · intro p q text hincludes hq
      obtain ⟨file, hfile, hpath⟩ := Sources.exists_of_readPath_ofFiles hq
      rw [List.mem_singleton] at hfile
      rw [← hincludes.path_location, ← hpath, hfile]
      rfl

/-- What flattening a file gives is joined from pieces that are kept of the files that are read. A
directive in it goes on behind the piece in which it starts, so there is none if no piece ends with
the beginning of one. Flattening files that hold the text leaves it as it is if and only if there is
no directive in it. -/
theorem flatten_joins_free_pieces {sources : Sources} {f : Flattener} {root : Path} {s : List Char}
    (h : (f.flatten sources root).outcome = .ok s) :
    ∃ pieces : List (List Char), s = pieces.flatten ∧
      (∀ piece ∈ pieces, ∃ file : FileText,
        file.path ∈ (f.reads sources root).map Location.path ∧
        sources.readPath file.path = .ok file.text ∧ piece ∈ file.cut.kept) ∧
      (∀ before d after, Directive.Written d → s = before ++ d.text ++ after →
        Directive.Straddles pieces before d) ∧
      ((∀ piece ∈ pieces, ¬ Directive.Begun piece) → Directive.Free s) ∧
      (Directive.Free s ↔ ∀ (sources' : Sources) (f' : Flattener) (root' : Path),
        sources'.readPath root'.normalize = .ok (String.ofList s) →
          (f'.flatten sources' root').outcome = .ok s) := by
  have hflatten := depthFirst_flatten sources f root
  rw [h] at hflatten
  obtain ⟨files, pieces, hcomposes, hvisited, rfl⟩ := hflatten.composes
  refine ⟨pieces, rfl, fun piece hpiece => ?_, fun before d after hd hsplit =>
    hcomposes.straddles hd hsplit, hcomposes.free_of_not_begun, free_iff_flatten_eq⟩
  obtain ⟨file, hfile, hkept⟩ := hcomposes.exists_mem_kept piece hpiece
  refine ⟨file, ?_, hcomposes.read_eq file hfile, hkept⟩
  rw [map_path_reads, hvisited, List.nil_append]
  exact List.mem_map_of_mem hfile

/-- The text of the file that includes others holds no directive. -/
theorem flatten_joins_free_pieces_sharedFile :
    (initial.flatten sharedFile ⟨"a"⟩).outcome = .ok "CB\n".toList ∧
    ∀ (sources : Sources) (f : Flattener) (root : Path),
      sources.readPath root.normalize = .ok "CB\n" →
        (f.flatten sources root).outcome = .ok "CB\n".toList := by
  obtain ⟨pieces, hpieces, -, -, hfree, hsame⟩ := flatten_joins_free_pieces outcome_sharedFile
  -- no piece begins a directive, because the text has no mark that starts one
  have hbegun : ∀ piece ∈ pieces, ¬ Directive.Begun piece := by
    intro piece hpiece hbegun
    have hmem : '#' ∈ "CB\n".toList := hpieces ▸ List.mem_flatten_of_mem hpiece hbegun.hash_mem
    exact absurd hmem (by decide)
  exact ⟨outcome_sharedFile, hsame.mp (hfree hbegun)⟩

/-- The text of one file ends in front of the mark that closes a target, and another file has the
mark. -/
def openTarget : Sources :=
  .ofFiles [⟨⟨"a"⟩, "#include \"b\"\""⟩, ⟨⟨"b"⟩, "#include \"c"⟩, ⟨⟨"c"⟩, "C"⟩,
    ⟨⟨"d"⟩, "#include \"c\""⟩]

/-- The flattened text is a directive, and a file that holds this text is flattened to another
text. -/
theorem flatten_openTarget :
    (initial.flatten openTarget ⟨"a"⟩).outcome = .ok "#include \"c\"".toList ∧
    ¬ Directive.Free "#include \"c\"".toList ∧
    openTarget.readPath ⟨"d"⟩ = .ok "#include \"c\"" ∧
    (initial.flatten openTarget ⟨"d"⟩).outcome = .ok "C".toList := by
  have hb : Directive.splitFirst [] "#include \"b\"\"".toList =
      ([], some (⟨"#include \"b\"".toList, "b".toList⟩, "\"".toList)) := by decide
  have hc : Directive.splitFirst [] "#include \"c\"".toList =
      ([], some (⟨"#include \"c\"".toList, "c".toList⟩, [])) := by decide
  have hfileB : DepthFirst openTarget.readPath (.file ⟨"b"⟩) [⟨"a"⟩] [⟨"a"⟩, ⟨"b"⟩]
      (.ok "#include \"c".toList) :=
    .readable (rfl : _ = Except.ok "#include \"c") (.of_splitFirst_none rfl)
  have hfileA : DepthFirst openTarget.readPath (.file ⟨"a"⟩) [] [⟨"a"⟩, ⟨"b"⟩]
      (.ok ([] ++ "#include \"c".toList ++ "\"".toList)) :=
    .readable (rfl : _ = Except.ok "#include \"b\"\"")
      (.of_splitFirst_included hb rfl (by decide) hfileB (.of_splitFirst_none rfl))
  have hfileC : DepthFirst openTarget.readPath (.file ⟨"c"⟩) [⟨"d"⟩] [⟨"d"⟩, ⟨"c"⟩]
      (.ok "C".toList) :=
    .readable (rfl : _ = Except.ok "C") (.of_splitFirst_none rfl)
  have hfileD : DepthFirst openTarget.readPath (.file ⟨"d"⟩) [] [⟨"d"⟩, ⟨"c"⟩]
      (.ok ([] ++ "C".toList ++ [])) :=
    .readable (rfl : _ = Except.ok "#include \"c\"")
      (.of_splitFirst_included hc rfl (by decide) hfileC (.of_splitFirst_none rfl))
  exact ⟨outcome_of_depthFirst initial hfileA, (Directive.first_of_splitFirst hc).not_free, rfl,
    outcome_of_depthFirst initial hfileD⟩

end Flattener

end DemoBuild
