import DemoBuild.Proofs.Include.Cut
import DemoBuild.Proofs.Include.Reads
import Mathlib.Data.List.Nodup
import Mathlib.Logic.Relation

/-!
# What an expanded text consists of

A successful expansion reads each file once and puts its text together from the pieces that the
files keep between their directives. Nothing is kept twice and nothing but the directives is left
out, so the sizes of the text and of the directives add up to the sizes of the files, whatever the
graph of the files looks like.

## Main definitions

* `Composes`: the files that are read for a successful expansion, and the pieces of its text;
* `Includes`: a file names another one in its text;
* `Sources.ofFiles`: sources with given files.

## Main results

* `DepthFirst.composes`: a successful expansion is composed of pieces;
* `Composes.nodup`: no file is read twice;
* `Composes.perm_kept`: the pieces are what is kept of the files that are read;
* `Composes.mem_map_path_iff`: the files that are read are those that can be reached;
* `Composes.weight_pieces`: the sizes add up;
* `Flattener.flatten_conserves`: so nothing is lost or duplicated when a file is flattened.
-/

namespace DemoBuild

/-- A file with its text. -/
structure FileText where
  /-- The file. -/
  path : Path
  /-- Its text. -/
  text : String
  deriving DecidableEq

/-- What the text of a file is cut into. -/
def FileText.cut (file : FileText) : Cut :=
  Directive.cut file.text.toList

/-- The files that are asked for at once: the file itself, or the ones that a text names. -/
def Expandable.asks : Expandable → List Path
  | .file path => [path]
  | .text directory chars => (Directive.cut chars).directives.map (·.namedFrom directory)

/-- What is kept of a text. -/
def Expandable.kept : Expandable → List (List Char)
  | .file _ => []
  | .text _ chars => (Directive.cut chars).kept

/-- `Composes read x met files pieces`: where the files `met` have been met already, expanding `x`
succeeds, the files that are read for it are `files`, and the expanded text is put together from
`pieces`, which are texts kept between directives. -/
inductive Composes (read : Path → Except FileError String) :
    Expandable → List Path → List FileText → List (List Char) → Prop
  /-- The file is read first. -/
  | readable {path text met files pieces} (hread : read path = .ok text)
      (htext : Composes read (.text path.parent text.toList) (met ++ [path]) files pieces) :
      Composes read (.file path) met (⟨path, text⟩ :: files) pieces
  /-- A text without a directive is kept. -/
  | plain {directory text met} (hfree : Directive.Free text) :
      Composes read (.text directory text) met [] [text]
  /-- Nothing is read for a directive that names a file met before. -/
  | repeated {directory text before d after met files pieces}
      (hfirst : Directive.First text before d after) (hmet : d.namedFrom directory ∈ met)
      (hafter : Composes read (.text directory after) met files pieces) :
      Composes read (.text directory text) met files (before :: pieces)
  /-- The pieces of a file stand where the first directive that names it stood. -/
  | included {directory text before d after met inner files innerPieces pieces}
      (hfirst : Directive.First text before d after) (hnew : d.namedFrom directory ∉ met)
      (hfile : Composes read (.file (d.namedFrom directory)) met inner innerPieces)
      (hafter : Composes read (.text directory after) (met ++ inner.map FileText.path) files
        pieces) :
      Composes read (.text directory text) met (inner ++ files) (before :: innerPieces ++ pieces)

/-- A successful expansion is composed of pieces. -/
theorem DepthFirst.composes {read : Path → Except FileError String} {x : Expandable}
    {met later : List Path} {s : List Char} (h : DepthFirst read x met later (.ok s)) :
    ∃ files pieces, Composes read x met files pieces ∧ later = met ++ files.map FileText.path ∧
      pieces.flatten = s := by
  -- the failing cases do not end with a text
  generalize hr : Except.ok s = r at h
  induction h generalizing s with
  | unreadable => simp at hr
  | readable hread _ ih =>
    obtain ⟨files, pieces, hcomposes, rfl, hs⟩ := ih hr
    exact ⟨_, pieces, .readable hread hcomposes, by simp, hs⟩
  | plain hfree =>
    cases hr
    exact ⟨[], _, .plain hfree, by simp, by simp⟩
  | @repeated _ _ _ _ _ _ _ r hfirst hmet _ ih =>
    cases r with
    | error e => simp at hr
    | ok rest =>
      obtain ⟨files, pieces, hcomposes, rfl, rfl⟩ := ih rfl
      cases hr
      exact ⟨files, _, .repeated hfirst hmet hcomposes, rfl, by simp⟩
  | failed => simp at hr
  | @included _ _ _ _ _ _ _ _ _ r hfirst hnew _ _ ihfile ihafter =>
    cases r with
    | error e => simp at hr
    | ok rest =>
      obtain ⟨inner, innerPieces, hinner, rfl, rfl⟩ := ihfile rfl
      obtain ⟨files, pieces, hcomposes, rfl, rfl⟩ := ihafter rfl
      cases hr
      exact ⟨_, _, .included hfirst hnew hinner hcomposes, by simp, by simp⟩

/-- The text of a file names another one. -/
def Includes (read : Path → Except FileError String) (p q : Path) : Prop :=
  ∃ text, read p = .ok text ∧ q ∈ (Expandable.text p.parent text.toList).asks

/-- A file that is named is named by its canonical path. -/
theorem Includes.path_location {read : Path → Except FileError String} {p q : Path}
    (h : Includes read p q) : q.location.path = q := by
  obtain ⟨text, -, hq⟩ := h
  obtain ⟨d, -, rfl⟩ := List.mem_map.mp hq
  exact congrArg Location.path
    (Location.location_path (Location.canonical_follow Location.canonical_here _))

namespace Composes

variable {read : Path → Except FileError String} {x : Expandable} {met : List Path}
  {files : List FileText} {pieces : List (List Char)}

/-- The files have been read. -/
theorem read_eq (h : Composes read x met files pieces) :
    ∀ file ∈ files, read file.path = .ok file.text := by
  induction h with
  | readable hread _ ih => exact List.forall_mem_cons.mpr ⟨hread, ih⟩
  | plain => simp
  | repeated _ _ _ ih => exact ih
  | included _ _ _ _ ihfile ihafter => exact List.forall_mem_append.mpr ⟨ihfile, ihafter⟩

/-- No file is read twice, and none that has been met before. -/
theorem nodup (h : Composes read x met files pieces) (hmet : met.Nodup)
    (hx : ∀ path, x = .file path → path ∉ met) : (met ++ files.map FileText.path).Nodup := by
  induction h with
  | @readable path _ met _ _ _ _ ih =>
    -- the file itself is met before its text is expanded
    have hpath : (met ++ [path]).Nodup := by
      rw [← List.concat_eq_append]
      exact hmet.concat (hx path rfl)
    simpa using ih hpath (by simp)
  | plain => simpa using hmet
  | repeated _ _ _ ih => exact ih hmet (by simp)
  | @included _ _ _ _ _ _ _ _ _ _ _ hnew _ _ ihfile ihafter =>
    -- what the included file reads is met when the rest of the text is expanded
    have hinner := ihfile hmet fun path hpath => by
      cases hpath
      exact hnew
    simpa using ihafter hinner (by simp)

/-- The pieces are what is kept of the texts, in another order. -/
theorem perm_kept (h : Composes read x met files pieces) :
    pieces.Perm (x.kept ++ files.flatMap (·.cut.kept)) := by
  induction h with
  | readable _ _ ih => exact ih
  | plain hfree => simp [Expandable.kept, Directive.cut_of_free hfree, Cut.kept]
  | repeated hfirst _ _ ih =>
    rw [Expandable.kept, Directive.kept_cut_of_first hfirst]
    exact ih.cons _
  | @included _ _ before d after _ inner files innerPieces pieces hfirst _ _ _ ihfile ihafter =>
    rw [Expandable.kept, Directive.kept_cut_of_first hfirst, List.flatMap_append]
    refine List.Perm.cons before ?_
    have hboth := ihfile.append ihafter
    -- what is kept behind the directive comes in front of what is kept of the file
    exact hboth.trans (List.perm_append_comm_assoc _ _ _)

/-- The files that are asked for have been met in the end, and so have those that the files ask for
that are read. -/
theorem asks_subset (h : Composes read x met files pieces) :
    x.asks ⊆ met ++ files.map FileText.path ∧
      ∀ file ∈ files, (Expandable.text file.path.parent file.text.toList).asks ⊆
        met ++ files.map FileText.path := by
  induction h with
  | readable _ _ ih =>
    obtain ⟨htext, hfiles⟩ := ih
    rw [List.append_assoc] at htext hfiles
    refine ⟨by simp [Expandable.asks], List.forall_mem_cons.mpr ⟨htext, hfiles⟩⟩
  | plain hfree =>
    simp [Expandable.asks, Directive.directives_cut_eq_nil_iff.mpr hfree]
  | repeated hfirst hmet _ ih =>
    obtain ⟨hafter, hfiles⟩ := ih
    refine ⟨?_, hfiles⟩
    rw [Expandable.asks, Directive.directives_cut_of_first hfirst, List.map_cons]
    exact List.cons_subset.mpr ⟨List.mem_append_left _ hmet, hafter⟩
  | @included _ _ _ _ _ met inner files _ _ hfirst _ _ _ ihfile ihafter =>
    obtain ⟨hfile, hinner⟩ := ihfile
    obtain ⟨hafter, hfiles⟩ := ihafter
    rw [List.append_assoc, ← List.map_append] at hafter hfiles
    -- what is met in the included file stays met
    have hsub {l : List Path} : l ⊆ met ++ inner.map FileText.path →
        l ⊆ met ++ (inner ++ files).map FileText.path := fun h => by
      rw [List.map_append, ← List.append_assoc]
      exact List.subset_append_of_subset_left _ h
    refine ⟨?_, List.forall_mem_append.mpr ⟨fun file h => hsub (hinner file h), hfiles⟩⟩
    rw [Expandable.asks, Directive.directives_cut_of_first hfirst, List.map_cons]
    exact List.cons_subset.mpr ⟨hsub hfile List.mem_cons_self, hafter⟩

/-- Only files that are asked for are read. -/
theorem forall_of_asks {R : Path → Prop} (h : Composes read x met files pieces)
    (hx : ∀ p ∈ x.asks, R p) (hstep : ∀ p q, R p → Includes read p q → R q) :
    ∀ file ∈ files, R file.path := by
  induction h with
  | @readable path text _ _ _ hread _ ih =>
    -- what the text names, the file includes
    have hpath : R path := hx path List.mem_cons_self
    exact List.forall_mem_cons.mpr ⟨hpath, ih fun q hq => hstep path q hpath ⟨text, hread, hq⟩⟩
  | plain => simp
  | repeated hfirst _ _ ih =>
    rw [Expandable.asks, Directive.directives_cut_of_first hfirst, List.map_cons] at hx
    exact ih (List.forall_mem_cons.mp hx).2
  | included hfirst _ _ _ ihfile ihafter =>
    rw [Expandable.asks, Directive.directives_cut_of_first hfirst, List.map_cons] at hx
    obtain ⟨hfile, hafter⟩ := List.forall_mem_cons.mp hx
    have hinner := ihfile (List.forall_mem_singleton.mpr hfile)
    exact List.forall_mem_append.mpr ⟨hinner, ihafter hafter⟩

/-- The files that are read for a file are the ones that can be reached from it. -/
theorem mem_map_path_iff {root : Path} (h : Composes read (.file root) [] files pieces) (p : Path) :
    p ∈ files.map FileText.path ↔ Relation.ReflTransGen (Includes read) root p := by
  constructor
  · intro hp
    obtain ⟨file, hfile, rfl⟩ := List.mem_map.mp hp
    refine h.forall_of_asks (R := Relation.ReflTransGen (Includes read) root) ?_ ?_ file hfile
    · exact List.forall_mem_singleton.mpr .refl
    · exact fun _ _ hreach hincludes => hreach.tail hincludes
  · obtain ⟨hroot, hclosed⟩ := h.asks_subset
    rw [List.nil_append] at hroot hclosed
    intro hreach
    induction hreach with
    | refl => exact hroot List.mem_cons_self
    | tail _ hincludes ih =>
      -- a file that is read asks for what it includes
      obtain ⟨file, hfile, rfl⟩ := List.mem_map.mp ih
      obtain ⟨text, hread, hasks⟩ := hincludes
      obtain rfl : text = file.text := by simpa [h.read_eq file hfile] using hread.symm
      exact hclosed file hfile hasks

/-- The pieces and the directives of the files together have the size of the files. -/
theorem weight_pieces {root : Path} (h : Composes read (.file root) met files pieces)
    (size : Char → Nat) :
    Text.weight size pieces.flatten +
        (files.map fun file =>
          (file.cut.directives.map fun d => Text.weight size d.text).sum).sum =
      (files.map fun file => Text.weight size file.text.toList).sum := by
  -- the order of the pieces does not matter for their size
  have hkept : (pieces.map (Text.weight size)).sum =
      (files.map fun file => (file.cut.kept.map (Text.weight size)).sum).sum := by
    rw [(h.perm_kept.map _).sum_eq, Expandable.kept, List.nil_append, List.map_flatMap,
      List.flatMap_def, List.sum_flatten, List.map_map]
    rfl
  have hcut (file : FileText) : Text.weight size file.text.toList =
      (file.cut.kept.map (Text.weight size)).sum +
        (file.cut.directives.map fun d => Text.weight size d.text).sum :=
    (Directive.weight_cut size file.text.toList).symm
  rw [Text.weight_flatten, hkept]
  simp only [hcut, List.sum_map_add]

end Composes

namespace Flattener

/-- Nothing is lost or duplicated when a file is flattened. If that succeeds, the files that are
read are distinct, and they are the ones that can be reached from the root. The text consists of the
pieces that are kept of these files. So its size and that of the directives of the files add up to
the size of the files, which it never exceeds. -/
theorem flatten_conserves {sources : Sources} {f : Flattener} {root : Path} {s : List Char}
    (h : (f.flatten sources root).outcome = .ok s) :
    ∃ files : List FileText,
      (f.reads sources root).map Location.path = files.map FileText.path ∧
      (∀ file ∈ files, sources.readPath file.path = .ok file.text) ∧
      (files.map FileText.path).Nodup ∧
      (∀ p, p ∈ files.map FileText.path ↔
        Relation.ReflTransGen (Includes sources.readPath) root.normalize p) ∧
      (∃ pieces : List (List Char), s = pieces.flatten ∧
        pieces.Perm (files.flatMap fun file => file.cut.kept)) ∧
      ∀ size : Char → Nat,
        Text.weight size s + (files.map fun file =>
            (file.cut.directives.map fun d => Text.weight size d.text).sum).sum =
          (files.map fun file => Text.weight size file.text.toList).sum ∧
        Text.weight size s ≤ (files.map fun file => Text.weight size file.text.toList).sum := by
  have hflatten := depthFirst_flatten sources f root
  rw [h] at hflatten
  obtain ⟨files, pieces, hcomposes, hvisited, rfl⟩ := hflatten.composes
  have hsize := hcomposes.weight_pieces
  refine ⟨files, ?_, hcomposes.read_eq, ?_, hcomposes.mem_map_path_iff, ⟨pieces, rfl, ?_⟩,
    fun size => ⟨hsize size, ?_⟩⟩
  · rw [map_path_reads, hvisited, List.nil_append]
  · simpa using hcomposes.nodup List.nodup_nil (by simp)
  · simpa [Expandable.kept] using hcomposes.perm_kept
  · exact Nat.le.intro (hsize size)

end Flattener

/-! ## Given files -/

/-- The sources that have these files and no others. -/
def Sources.ofFiles (files : List FileText) : Sources where
  read l :=
    match files.find? fun file => file.path.location = l with
    | some file => .ok file.text
    | none => .error (.os .notFound)
  readable := files.map fun file => file.path.location
  mem_readable := by
    intro l text h
    split at h
    · next file hfound =>
      have hl : file.path.location = l := by simpa using List.find?_some hfound
      exact hl ▸ List.mem_map_of_mem (List.mem_of_find?_eq_some hfound)
    · simp at h

theorem Sources.readPath_ofFiles_singleton (file : FileText) :
    (Sources.ofFiles [file]).readPath file.path = .ok file.text := by
  simp [readPath, ofFiles]

theorem Sources.exists_of_readPath_ofFiles {files : List FileText} {p : Path} {text : String}
    (h : (Sources.ofFiles files).readPath p = .ok text) :
    ∃ file ∈ files, file.path.location = p.location := by
  obtain ⟨file, hfile, hpath⟩ := List.mem_map.mp ((Sources.ofFiles files).mem_readable h)
  exact ⟨file, hfile, hpath⟩

namespace DepthFirst

variable {read : Path → Except FileError String} {directory file : Path}
  {text before after rest : List Char} {d : Directive} {met between later : List Path}

/-- The search finds a directive that names a file for the first time. -/
theorem of_splitFirst_included {inner : List Char}
    (hfound : Directive.splitFirst [] text = (before, some (d, after)))
    (hpath : d.namedFrom directory = file) (hnew : file ∉ met)
    (hfile : DepthFirst read (.file file) met between (.ok inner))
    (hafter : DepthFirst read (.text directory after) between later (.ok rest)) :
    DepthFirst read (.text directory text) met later (.ok (before ++ inner ++ rest)) :=
  .included (Directive.first_of_splitFirst hfound) (hpath ▸ hnew) (hpath ▸ hfile) hafter

/-- The search finds a directive that names a file met before. -/
theorem of_splitFirst_repeated
    (hfound : Directive.splitFirst [] text = (before, some (d, after)))
    (hpath : d.namedFrom directory = file) (hmet : file ∈ met)
    (hafter : DepthFirst read (.text directory after) met later (.ok rest)) :
    DepthFirst read (.text directory text) met later (.ok (before ++ rest)) :=
  .repeated (Directive.first_of_splitFirst hfound) (hpath ▸ hmet) hafter

/-- The search finds no directive. -/
theorem of_splitFirst_none (hfound : Directive.splitFirst [] text = (before, none)) :
    DepthFirst read (.text directory text) met met (.ok text) :=
  .plain (Directive.free_of_splitFirst hfound)

end DepthFirst

namespace Flattener

/-- Flattening a file gives what its depth-first expansion gives. -/
theorem outcome_of_depthFirst {sources : Sources} {root : Path} {visited : List Path}
    {r : Except Error (List Char)} (f : Flattener)
    (h : DepthFirst sources.readPath (.file root.normalize) [] visited r) :
    (f.flatten sources root).outcome = r :=
  ((depthFirst_flatten sources f root).deterministic h).2

/-- Two files that include a third one. -/
def sharedFile : Sources :=
  .ofFiles [⟨⟨"a"⟩, "#include \"b\"\n#include <c>"⟩, ⟨⟨"b"⟩, "#include <c>B"⟩, ⟨⟨"c"⟩, "C"⟩]

theorem outcome_sharedFile :
    (initial.flatten sharedFile ⟨"a"⟩).outcome = .ok "CB\n".toList := by
  have hb : Directive.splitFirst [] "#include \"b\"\n#include <c>".toList =
      ([], some (⟨"#include \"b\"".toList, "b".toList⟩, "\n#include <c>".toList)) := by decide
  have hc : Directive.splitFirst [] "#include <c>B".toList =
      ([], some (⟨"#include <c>".toList, "c".toList⟩, "B".toList)) := by decide
  have hagain : Directive.splitFirst [] "\n#include <c>".toList =
      ("\n".toList, some (⟨"#include <c>".toList, "c".toList⟩, [])) := by decide
  have hfileC : DepthFirst sharedFile.readPath (.file ⟨"c"⟩) [⟨"a"⟩, ⟨"b"⟩]
      [⟨"a"⟩, ⟨"b"⟩, ⟨"c"⟩] (.ok "C".toList) :=
    .readable (rfl : _ = Except.ok "C") (.of_splitFirst_none rfl)
  have hfileB : DepthFirst sharedFile.readPath (.file ⟨"b"⟩) [⟨"a"⟩]
      [⟨"a"⟩, ⟨"b"⟩, ⟨"c"⟩] (.ok ([] ++ "C".toList ++ "B".toList)) :=
    .readable (rfl : _ = Except.ok "#include <c>B")
      (.of_splitFirst_included hc rfl (by decide) hfileC (.of_splitFirst_none rfl))
  have hfileA : DepthFirst sharedFile.readPath (.file ⟨"a"⟩) []
      [⟨"a"⟩, ⟨"b"⟩, ⟨"c"⟩] (.ok ([] ++ ([] ++ "C".toList ++ "B".toList) ++ ("\n".toList ++ []))) :=
    .readable (rfl : _ = Except.ok "#include \"b\"\n#include <c>")
      (.of_splitFirst_included hb rfl (by decide) hfileB
        (.of_splitFirst_repeated hagain rfl (by decide) (.of_splitFirst_none rfl)))
  exact outcome_of_depthFirst initial hfileA

/-- The file that is included twice is read once. -/
theorem flatten_conserves_sharedFile :
    (initial.flatten sharedFile ⟨"a"⟩).outcome = .ok "CB\n".toList ∧
    ((initial.reads sharedFile ⟨"a"⟩).map Location.path).Nodup ∧
    ∃ files : List FileText,
      (initial.reads sharedFile ⟨"a"⟩).map Location.path = files.map FileText.path ∧
      "CB\n".length + (files.map fun file =>
          (file.cut.directives.map fun d => Text.weight (fun _ => 1) d.text).sum).sum =
        (files.map fun file => Text.weight (fun _ => 1) file.text.toList).sum := by
  obtain ⟨files, hreads, -, hnodup, -, -, hsize⟩ := flatten_conserves outcome_sharedFile
  exact ⟨outcome_sharedFile, hreads ▸ hnodup, files, hreads, (hsize fun _ => 1).1⟩

end Flattener

end DemoBuild
