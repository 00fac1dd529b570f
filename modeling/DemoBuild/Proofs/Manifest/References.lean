import DemoBuild.Manifest.References
import DemoBuild.Proofs.Failure
import DemoBuild.Proofs.Include.Steps
import DemoBuild.Proofs.Session
import DemoBuild.Proofs.Yaml.Tree

/-!
# What becomes of file references

The references of a tree to files are replaced by the texts of the files, and nothing else changes.
The files are expanded one by one, so that a file that is referred to twice is there twice, and the
first of them that cannot be expanded is what everything fails with.

## Main definitions

* `Manifest.IsReference`: an entry of a mapping refers to a file;
* `Manifest.RefersAt`: where a tree refers to files;
* `Manifest.Replaced`: a tree with the texts of files in the place of its references.

## Main results

* `Manifest.onlyReads_resolve`: nothing but the log changes;
* `Manifest.resultIn_resolve_eq_ok_iff`: the tree that references are replaced in;
* `Manifest.exists_refers`: the first reference that cannot be replaced decides how all fails;
* `Manifest.resolve_of_replaced`: there are no references left;
* `Manifest.resolve_replaces_references`: all this together.
-/

namespace DemoBuild

/-! ## Expanded files -/

namespace FileSystem

/-- The text of a file with its includes expanded, where no file has been met before. -/
def expanded (fs : FileSystem) (path : Path) : Except Error String :=
  String.ofList <$> (Flattener.initial.flatten fs.sources path).outcome

@[simp]
theorem read_sources (fs : FileSystem) : fs.sources.read = fs.readAt := rfl

/-- A file without directives is its own text. -/
theorem expanded_of_free {fs : FileSystem} {path : Path} {text : String}
    (hread : fs.readAt path.location = .ok text)
    (hfree : (Directive.splitFirst [] text.toList).2 = none) : fs.expanded path = .ok text := by
  have hsource : fs.sources.read path.location = .ok text := by
    rw [read_sources, hread]
  have hstop : (Directive.splitFirst [] (text.toList.drop 0)).2 = none := hfree
  rw [expanded, Flattener.flatten, Flattener.enter_of_ok _ hsource]
  dsimp only
  rw [Flattener.expandIncludes_of_none (Prod.ext rfl hstop)]
  simp

end FileSystem

namespace Action

/-- Expanding a file is what the files give, apart from the log. -/
theorem flatten_eq (path : Path) : flatten path = (files >>= fun fs =>
    logAll (Flattener.initial.flatten fs.sources path).log >>= fun _ =>
      liftM (fs.expanded path)) := by
  refine congrArg (files >>= ·) (funext fun fs => congrArg (logAll _ >>= ·) (funext fun _ => ?_))
  rw [FileSystem.expanded]
  cases (Flattener.initial.flatten fs.sources path).outcome <;> rfl

/-- Expanding a file changes nothing but the log. -/
theorem onlyReads_flatten (path : Path) : OnlyReads (flatten path) := by
  rw [flatten_eq]
  exact .bind .files fun fs => .bind (.logAll _) fun _ => .liftM _

/-- What expanding a file gives. -/
theorem resultIn_flatten (path : Path) (fs : FileSystem) :
    (flatten path).resultIn fs = fs.expanded path := by
  rw [flatten_eq, resultIn_bind .files fun fs => .bind (.logAll _) fun _ => .liftM _,
    resultIn_files]
  change (_ >>= _ : Action String).resultIn fs = _
  rw [resultIn_bind (.logAll _) fun _ => .liftM _, resultIn_logAll]
  rfl

end Action

namespace Manifest

open Yaml (Tree Before Lists)

/-! ## References -/

/-- The text that takes the place of a reference: that of the file with its includes expanded. The
file is found from the directory `base`. -/
def codeOf (fs : FileSystem) (base : Path) (file : String) : Except Error String :=
  fs.expanded (base.join ⟨file⟩).normalize

/-- An entry refers to a file: its key is a text that ends in `Code`, and its value is a mapping
whose only entry is `file`, a text that is the name of the file. The mapping and the key `file` have
no tags; the two texts may have some. -/
def IsReference (key value : Tree) (file : String) : Prop :=
  (∃ stem, key.text? = some (stem ++ "Code")) ∧
    ∃ target, value = .mapping [(.text "file", target)] ∧ target.text? = some file

/-- The tree refers to a file in an entry at this position. A tree refers to files in the items of
its lists and in the entries of its mappings, but not behind a tag. -/
inductive RefersAt : Tree → List Nat → String → Prop
  | here {entries : List (Tree × Tree)} {i : Nat} {key value : Tree} {file : String} :
    entries[i]? = some (key, value) → IsReference key value file →
    RefersAt (.mapping entries) [i] file
  | entry {entries : List (Tree × Tree)} {i : Nat} {key value : Tree} {pos : List Nat}
    {file : String} : entries[i]? = some (key, value) → RefersAt value pos file →
    RefersAt (.mapping entries) (i :: pos) file
  | item {items : List Tree} {i : Nat} {item : Tree} {pos : List Nat} {file : String} :
    items[i]? = some item → RefersAt item pos file → RefersAt (.sequence items) (i :: pos) file

mutual

/-- The second tree is the first one with its references replaced by texts. All else is the same:
tags and what is behind them, scalars, keys, and the order of items and entries. -/
inductive Replaced (code : String → Except Error String) : Tree → Tree → Prop
  | same {t : Tree} : (∀ items, t ≠ .sequence items) → (∀ entries, t ≠ .mapping entries) →
    Replaced code t t
  | sequence {items items' : List Tree} : ReplacedItems code items items' →
    Replaced code (.sequence items) (.sequence items')
  | mapping {entries entries' : List (Tree × Tree)} : ReplacedEntries code entries entries' →
    Replaced code (.mapping entries) (.mapping entries')

/-- The items of a list with their references replaced. -/
inductive ReplacedItems (code : String → Except Error String) : List Tree → List Tree → Prop
  | nil : ReplacedItems code [] []
  | cons {t t' : Tree} {items items' : List Tree} : Replaced code t t' →
    ReplacedItems code items items' → ReplacedItems code (t :: items) (t' :: items')

/-- The entries of a mapping with their references replaced. -/
inductive ReplacedEntries (code : String → Except Error String) :
    List (Tree × Tree) → List (Tree × Tree) → Prop
  | nil : ReplacedEntries code [] []
  | reference {key value : Tree} {file text : String} {entries entries' : List (Tree × Tree)} :
    IsReference key value file → code file = .ok text → ReplacedEntries code entries entries' →
    ReplacedEntries code ((key, value) :: entries) ((key, .text text) :: entries')
  | other {key value value' : Tree} {entries entries' : List (Tree × Tree)} :
    (∀ file, ¬ IsReference key value file) → Replaced code value value' →
    ReplacedEntries code entries entries' →
    ReplacedEntries code ((key, value) :: entries) ((key, value') :: entries')

end

/-- A key names a field for code if it is a text that ends in `Code`. -/
theorem isCodeField_iff {key : Tree} :
    isCodeField key = true ↔ ∃ stem, key.text? = some (stem ++ "Code") := by
  rw [isCodeField]
  cases key.text? with
  | none => simp
  | some name =>
    simp only [List.isSuffixOf_iff_suffix, Option.some.injEq]
    -- a list of characters in front of the ending is a text in front of it
    constructor
    · rintro ⟨stem, hstem⟩
      refine ⟨String.ofList stem, ?_⟩
      rw [← String.toList_inj, ← hstem]
      simp
    · rintro ⟨stem, rfl⟩
      exact ⟨stem.toList, by simp⟩

/-- A tree is a reference if it is a mapping with the only entry `file`, a text. -/
theorem reference?_eq_some_iff {value : Tree} {file : String} :
    reference? value = some file ↔
      ∃ target, value = .mapping [(.text "file", target)] ∧ target.text? = some file := by
  constructor
  · intro h
    unfold reference? at h
    split at h
    · next target => exact ⟨target, rfl, h⟩
    · cases h
  · rintro ⟨target, rfl, h⟩
    exact h

/-- What refers to a file is a reference. -/
theorem entryReference?_eq_some_iff {key value : Tree} {file : String} :
    entryReference? key value = some file ↔ IsReference key value file := by
  rw [entryReference?, IsReference, ← isCodeField_iff, ← reference?_eq_some_iff]
  cases isCodeField key <;> simp

/-- What refers to no file is none. -/
theorem entryReference?_eq_none_iff {key value : Tree} :
    entryReference? key value = none ↔ ∀ file, ¬ IsReference key value file := by
  simp only [Option.eq_none_iff_forall_ne_some, ne_eq, entryReference?_eq_some_iff]

/-- The references of a mapping are its entries that are some, and those below its entries. -/
theorem refersAt_mapping_iff {entries : List (Tree × Tree)} {pos : List Nat} {file : String} :
    RefersAt (.mapping entries) pos file ↔ ∃ i entry rest, entries[i]? = some entry ∧
      pos = i :: rest ∧ (rest = [] ∧ IsReference entry.1 entry.2 file ∨
        RefersAt entry.2 rest file) := by
  constructor
  · intro h
    cases h with
    | here hentry href => exact ⟨_, _, [], hentry, rfl, .inl ⟨rfl, href⟩⟩
    | entry hentry hbelow => exact ⟨_, _, _, hentry, rfl, .inr hbelow⟩
  · rintro ⟨i, ⟨key, value⟩, rest, hentry, rfl, ⟨rfl, href⟩ | hbelow⟩
    · exact .here hentry href
    · exact .entry hentry hbelow

/-- The references of a list are those of its items. -/
theorem refersAt_sequence_iff {items : List Tree} {pos : List Nat} {file : String} :
    RefersAt (.sequence items) pos file ↔ ∃ i item rest, items[i]? = some item ∧
      pos = i :: rest ∧ RefersAt item rest file := by
  constructor
  · intro h
    cases h with
    | item hitem hbelow => exact ⟨_, _, _, hitem, rfl, hbelow⟩
  · rintro ⟨i, item, rest, hitem, rfl, hbelow⟩
    exact .item hitem hbelow

/-- Only lists and mappings refer to files. -/
theorem RefersAt.exists_parts {t : Tree} {pos : List Nat} {file : String}
    (h : RefersAt t pos file) :
    (∃ items, t = .sequence items) ∨ ∃ entries, t = .mapping entries := by
  cases h with
  | here _ _ => exact .inr ⟨_, rfl⟩
  | entry _ _ => exact .inr ⟨_, rfl⟩
  | item _ _ => exact .inl ⟨_, rfl⟩

/-- A reference refers to nothing further inside. -/
theorem IsReference.not_refersAt {key value : Tree} {file : String} (h : IsReference key value file)
    (pos : List Nat) (file' : String) : ¬ RefersAt value pos file' := by
  obtain ⟨-, target, rfl, htarget⟩ := h
  rw [refersAt_mapping_iff]
  rintro ⟨i, entry, rest, hentry, -, hrefers⟩
  obtain ⟨-, rfl⟩ : i = 0 ∧ (.text "file", target) = entry := by
    simpa [List.getElem?_cons, Nat.sub_eq_zero_iff_le] using hentry
  rcases hrefers with ⟨-, hcode, -⟩ | hbelow
  · -- the name of the only entry does not end in `Code`
    have hfile : isCodeField (.text "file") = false := by decide
    rw [isCodeField_iff.mpr hcode] at hfile
    cases hfile
  · obtain ⟨items, rfl⟩ | ⟨entries, rfl⟩ := hbelow.exists_parts <;> cases htarget

/-! ## Replacing -/

/-- A tree that is no list and no mapping stays as it is. -/
theorem resolve_of_ne {t : Tree} (hitems : ∀ items, t ≠ .sequence items)
    (hentries : ∀ entries, t ≠ .mapping entries) (base : Path) : resolve base t = pure t := by
  cases t with
  | sequence items => exact absurd rfl (hitems items)
  | mapping entries => exact absurd rfl (hentries entries)
  | _ => rfl

/-- What takes the place of the value of an entry. -/
def resolveEntry (base : Path) (key value : Tree) : Action Tree :=
  match entryReference? key value with
  | some file => Tree.text <$> loadCode base file
  | none => resolve base value

theorem resolveItems_cons (base : Path) (t : Tree) (items : List Tree) :
    resolveItems base (t :: items) =
      resolve base t >>= fun t => (t :: ·) <$> resolveItems base items := by
  simp only [resolveItems, map_eq_pure_bind]

theorem resolveEntries_cons (base : Path) (key value : Tree) (entries : List (Tree × Tree)) :
    resolveEntries base ((key, value) :: entries) =
      resolveEntry base key value >>= fun value =>
        ((key, value) :: ·) <$> resolveEntries base entries := by
  rw [resolveEntries, resolveEntry]
  cases entryReference? key value <;> simp only [map_eq_pure_bind]

theorem onlyReads_loadCode (base : Path) (file : String) : Action.OnlyReads (loadCode base file) :=
  .bind (.log _ _) fun _ => Action.onlyReads_flatten _

theorem resultIn_loadCode (base : Path) (file : String) (fs : FileSystem) :
    (loadCode base file).resultIn fs = codeOf fs base file := by
  unfold loadCode
  rw [Action.resultIn_bind (.log _ _) fun _ => Action.onlyReads_flatten _, Action.resultIn_log]
  exact Action.resultIn_flatten _ fs

theorem onlyReads_resolveItems {base : Path} {items : List Tree}
    (h : ∀ t ∈ items, Action.OnlyReads (resolve base t)) :
    Action.OnlyReads (resolveItems base items) := by
  induction items with
  | nil => exact .pure _
  | cons t items ih =>
    obtain ⟨hfirst, hrest⟩ := List.forall_mem_cons.mp h
    rw [resolveItems_cons]
    exact hfirst.bind fun _ => (ih hrest).map _

theorem onlyReads_resolveEntry {base : Path} {key value : Tree}
    (h : Action.OnlyReads (resolve base value)) :
    Action.OnlyReads (resolveEntry base key value) := by
  unfold resolveEntry
  split
  · exact (onlyReads_loadCode base _).map _
  · exact h

theorem onlyReads_resolveEntries {base : Path} {entries : List (Tree × Tree)}
    (h : ∀ entry ∈ entries, Action.OnlyReads (resolve base entry.2)) :
    Action.OnlyReads (resolveEntries base entries) := by
  induction entries with
  | nil => exact .pure _
  | cons entry entries ih =>
    obtain ⟨hfirst, hrest⟩ := List.forall_mem_cons.mp h
    rw [resolveEntries_cons]
    exact (onlyReads_resolveEntry hfirst).bind fun _ => (ih hrest).map _

/-- Replacing references changes nothing but the log. -/
theorem onlyReads_resolve (base : Path) (t : Tree) : Action.OnlyReads (resolve base t) := by
  induction t using Tree.induction with
  | sequence items ih =>
    rw [resolve]
    exact (onlyReads_resolveItems ih).map _
  | mapping entries ih =>
    rw [resolve]
    exact (onlyReads_resolveEntries ih).map _
  | _ => exact .pure _

variable (fs : FileSystem) (base : Path)

theorem resultIn_resolveItems_cons (t : Tree) (items : List Tree) :
    (resolveItems base (t :: items)).resultIn fs =
      (resolve base t).resultIn fs >>= fun t =>
        (t :: ·) <$> (resolveItems base items).resultIn fs := by
  have hitems := onlyReads_resolveItems fun t (_ : t ∈ items) => onlyReads_resolve base t
  rw [resolveItems_cons, Action.resultIn_bind (onlyReads_resolve base t) fun _ => hitems.map _]
  simp only [Action.resultIn_map]

theorem resultIn_resolveEntry (key value : Tree) :
    (resolveEntry base key value).resultIn fs =
      match entryReference? key value with
      | some file => Tree.text <$> codeOf fs base file
      | none => (resolve base value).resultIn fs := by
  unfold resolveEntry
  cases entryReference? key value with
  | none => rfl
  | some file => rw [Action.resultIn_map, resultIn_loadCode]

theorem resultIn_resolveEntries_cons (key value : Tree) (entries : List (Tree × Tree)) :
    (resolveEntries base ((key, value) :: entries)).resultIn fs =
      (resolveEntry base key value).resultIn fs >>= fun value =>
        ((key, value) :: ·) <$> (resolveEntries base entries).resultIn fs := by
  have hentries := onlyReads_resolveEntries
    fun entry (_ : entry ∈ entries) => onlyReads_resolve base entry.2
  rw [resolveEntries_cons, Action.resultIn_bind
    (onlyReads_resolveEntry (onlyReads_resolve base value)) fun _ => hentries.map _]
  simp only [Action.resultIn_map]

/-! ## What a tree becomes -/

variable {fs base}

/-- The items that a list is replaced by are those that its items are replaced by. -/
theorem resultIn_resolveItems_eq_ok_iff {items : List Tree}
    (h : ∀ t ∈ items, ∀ t', (resolve base t).resultIn fs = .ok t' ↔
      Replaced (codeOf fs base) t t') {items' : List Tree} :
    (resolveItems base items).resultIn fs = .ok items' ↔
      ReplacedItems (codeOf fs base) items items' := by
  induction items generalizing items' with
  | nil =>
    rw [resolveItems, Action.resultIn_pure, Except.ok.injEq]
    constructor
    · rintro rfl
      exact .nil
    · rintro ⟨⟩
      rfl
  | cons t items ih =>
    obtain ⟨hfirst, hrest⟩ := List.forall_mem_cons.mp h
    rw [resultIn_resolveItems_cons, bind_eq_ok_iff]
    simp only [hfirst, map_eq_ok_iff, ih hrest]
    constructor
    · rintro ⟨t', ht, rest', hitems, rfl⟩
      exact .cons ht hitems
    · rintro (_ | ⟨ht, hitems⟩)
      exact ⟨_, ht, _, hitems, rfl⟩

/-- The value of an entry is replaced by the text of a file exactly if it refers to one. -/
theorem resultIn_resolveEntry_eq_ok_iff {key value : Tree}
    (h : ∀ t', (resolve base value).resultIn fs = .ok t' ↔
      Replaced (codeOf fs base) value t') {value' : Tree} :
    (resolveEntry base key value).resultIn fs = .ok value' ↔
      (∃ file text, IsReference key value file ∧ codeOf fs base file = .ok text ∧
        value' = .text text) ∨
      (∀ file, ¬ IsReference key value file) ∧ Replaced (codeOf fs base) value value' := by
  rw [resultIn_resolveEntry]
  simp only [← entryReference?_eq_some_iff]
  cases hreference : entryReference? key value with
  | none => simp [h]
  | some file =>
    constructor
    · intro hvalue
      obtain ⟨text, hcode, rfl⟩ := map_eq_ok_iff.mp hvalue
      exact .inl ⟨file, text, rfl, hcode, rfl⟩
    · rintro (⟨_, text, ⟨⟩, hcode, rfl⟩ | ⟨hnone, -⟩)
      · exact map_eq_ok_iff.mpr ⟨text, hcode, rfl⟩
      · exact absurd rfl (hnone file)

/-- The entries that a mapping is replaced by. -/
theorem resultIn_resolveEntries_eq_ok_iff {entries : List (Tree × Tree)}
    (h : ∀ entry ∈ entries, ∀ t', (resolve base entry.2).resultIn fs = .ok t' ↔
      Replaced (codeOf fs base) entry.2 t') {entries' : List (Tree × Tree)} :
    (resolveEntries base entries).resultIn fs = .ok entries' ↔
      ReplacedEntries (codeOf fs base) entries entries' := by
  induction entries generalizing entries' with
  | nil =>
    rw [resolveEntries, Action.resultIn_pure, Except.ok.injEq]
    constructor
    · rintro rfl
      exact .nil
    · rintro ⟨⟩
      rfl
  | cons entry entries ih =>
    obtain ⟨hfirst, hrest⟩ := List.forall_mem_cons.mp h
    obtain ⟨key, value⟩ := entry
    rw [resultIn_resolveEntries_cons, bind_eq_ok_iff]
    simp only [resultIn_resolveEntry_eq_ok_iff hfirst, map_eq_ok_iff, ih hrest]
    constructor
    · rintro ⟨_, ⟨file, text, href, hcode, rfl⟩ | ⟨hnone, hvalue⟩, rest', hentries, rfl⟩
      · exact .reference href hcode hentries
      · exact .other hnone hvalue hentries
    · intro hentries
      cases hentries with
      | reference href hcode hentries =>
        exact ⟨_, .inl ⟨_, _, href, hcode, rfl⟩, _, hentries, rfl⟩
      | other hnone hvalue hentries => exact ⟨_, .inr ⟨hnone, hvalue⟩, _, hentries, rfl⟩

/-- The tree that references are replaced in. -/
theorem resultIn_resolve_eq_ok_iff {t t' : Tree} :
    (resolve base t).resultIn fs = .ok t' ↔ Replaced (codeOf fs base) t t' := by
  -- a tree without parts stays as it is
  have hsame {t : Tree} (hitems : ∀ items, t ≠ .sequence items)
      (hentries : ∀ entries, t ≠ .mapping entries) {t' : Tree} :
      (resolve base t).resultIn fs = .ok t' ↔ Replaced (codeOf fs base) t t' := by
    rw [resolve_of_ne hitems hentries, Action.resultIn_pure, Except.ok.injEq]
    constructor
    · rintro rfl
      exact .same hitems hentries
    · intro h
      cases h with
      | same _ _ => rfl
      | sequence _ => exact absurd rfl (hitems _)
      | mapping _ => exact absurd rfl (hentries _)
  induction t using Tree.induction generalizing t' with
  | sequence items ih =>
    rw [resolve, Action.resultIn_map, map_eq_ok_iff]
    simp only [resultIn_resolveItems_eq_ok_iff fun t ht _ => ih t ht]
    constructor
    · rintro ⟨items', hitems, rfl⟩
      exact .sequence hitems
    · intro h
      cases h with
      | same hitems _ => exact absurd rfl (hitems _)
      | sequence hitems => exact ⟨_, hitems, rfl⟩
  | mapping entries ih =>
    rw [resolve, Action.resultIn_map, map_eq_ok_iff]
    simp only [resultIn_resolveEntries_eq_ok_iff fun entry hentry _ => ih entry hentry]
    constructor
    · rintro ⟨entries', hentries, rfl⟩
      exact .mapping hentries
    · intro h
      cases h with
      | same _ hentries => exact absurd rfl (hentries _)
      | mapping hentries => exact ⟨_, hentries, rfl⟩
  | _ => exact hsame (by simp) (by simp)

/-! ## How replacing fails -/

/-- The files that a tree refers to, in the order of the document. The first of them that cannot be
expanded is how replacing fails. -/
structure Refers (t : Tree) (files : List String) : Prop where
  /-- The list holds the files in their order. -/
  lists : Lists (RefersAt t) files
  /-- The first failure is that of the whole. -/
  failure_eq : ∀ fs base, failure? ((resolve base t).resultIn fs) =
    files.findSome? fun file => failure? (codeOf fs base file)

/-- A tree without parts refers to no files. -/
theorem refers_of_ne {t : Tree} (hitems : ∀ items, t ≠ .sequence items)
    (hentries : ∀ entries, t ≠ .mapping entries) : Refers t [] := by
  refine ⟨.nil fun pos file h => ?_, fun fs base => ?_⟩
  · obtain ⟨items, rfl⟩ | ⟨entries, rfl⟩ := h.exists_parts
    · exact hitems items rfl
    · exact hentries entries rfl
  · rw [resolve_of_ne hitems hentries]
    rfl

/-- A list refers to the files that its items refer to, one item after the other. -/
theorem refers_sequence {items : List Tree} {files : Tree → List String}
    (h : ∀ t ∈ items, Refers t (files t)) : Refers (.sequence items) (items.flatMap files) := by
  refine ⟨(Lists.below fun t ht => (h t ht).lists).congr fun pos file =>
    refersAt_sequence_iff.symm, fun fs base => ?_⟩
  rw [resolve, Action.resultIn_map, failure?_map]
  induction items with
  | nil => rfl
  | cons t items ih =>
    obtain ⟨hfirst, hrest⟩ := List.forall_mem_cons.mp h
    -- the failure of the first item, or else of the others
    rw [resultIn_resolveItems_cons, failure?_bind fun _ => failure?_map _ _, hfirst.failure_eq,
      ih hrest, List.flatMap_cons, List.findSome?_append]

/-- The files that an entry refers to, given those that its value refers to. -/
def entryFiles (files : Tree × Tree → List String) (entry : Tree × Tree) : List String :=
  match entryReference? entry.1 entry.2 with
  | some file => [file]
  | none => files entry

/-- The files that an entry refers to, at their positions. -/
theorem lists_entryFiles {entry : Tree × Tree} {files : Tree × Tree → List String}
    (h : Lists (RefersAt entry.2) (files entry)) :
    Lists (fun pos file => pos = [] ∧ IsReference entry.1 entry.2 file ∨ RefersAt entry.2 pos file)
      (entryFiles files entry) := by
  rw [entryFiles]
  cases hreference : entryReference? entry.1 entry.2 with
  | none =>
    have hnone := entryReference?_eq_none_iff.mp hreference
    exact h.congr fun pos file => by simp [hnone]
  | some file =>
    have href := entryReference?_eq_some_iff.mp hreference
    refine .singleton fun pos file' => ?_
    simp [href.not_refersAt, ← entryReference?_eq_some_iff, hreference, eq_comm]

/-- Replacing an entry fails like the first of the files that it refers to. -/
theorem failure?_resolveEntry {entry : Tree × Tree} {files : Tree × Tree → List String}
    (h : Refers entry.2 (files entry)) (fs : FileSystem) (base : Path) :
    failure? ((resolveEntry base entry.1 entry.2).resultIn fs) =
      (entryFiles files entry).findSome? fun file => failure? (codeOf fs base file) := by
  rw [resultIn_resolveEntry, entryFiles]
  cases entryReference? entry.1 entry.2 with
  | none => exact h.failure_eq fs base
  | some file =>
    rw [List.findSome?_singleton]
    exact failure?_map _ _

/-- A mapping refers to the files that its entries refer to, one entry after the other. -/
theorem refers_mapping {entries : List (Tree × Tree)} {files : Tree × Tree → List String}
    (h : ∀ entry ∈ entries, Refers entry.2 (files entry)) :
    Refers (.mapping entries) (entries.flatMap (entryFiles files)) := by
  refine ⟨(Lists.below fun entry hentry => lists_entryFiles (h entry hentry).lists).congr
    fun pos file => refersAt_mapping_iff.symm, fun fs base => ?_⟩
  rw [resolve, Action.resultIn_map, failure?_map]
  induction entries with
  | nil => rfl
  | cons entry entries ih =>
    obtain ⟨hfirst, hrest⟩ := List.forall_mem_cons.mp h
    rw [resultIn_resolveEntries_cons, failure?_bind fun _ => failure?_map _ _,
      failure?_resolveEntry hfirst, ih hrest, List.flatMap_cons, List.findSome?_append]

/-- The files that a tree refers to can be listed. -/
theorem exists_refers (t : Tree) : ∃ files, Refers t files := by
  induction t using Tree.induction with
  | sequence items ih =>
    choose! files hfiles using ih
    exact ⟨_, refers_sequence hfiles⟩
  | mapping entries ih =>
    choose! files hfiles using ih
    exact ⟨_, refers_mapping hfiles⟩
  | _ => exact ⟨[], refers_of_ne (by simp) (by simp)⟩

/-- Replacing fails exactly if some file cannot be expanded. -/
theorem exists_resultIn_resolve_eq_error_iff {t : Tree} {fs : FileSystem} {base : Path} :
    (∃ e, (resolve base t).resultIn fs = .error e) ↔
      ∃ pos file e, RefersAt t pos file ∧ codeOf fs base file = .error e := by
  obtain ⟨files, hfiles⟩ := exists_refers t
  simp only [← failure?_eq_some_iff, hfiles.failure_eq]
  rw [← Option.isSome_iff_exists, List.findSome?_isSome_iff]
  simp only [Option.isSome_iff_exists, hfiles.lists.mem_iff]
  constructor
  · rintro ⟨file, ⟨pos, hrefers⟩, e, he⟩
    exact ⟨pos, file, e, hrefers, he⟩
  · rintro ⟨pos, file, e, hrefers, he⟩
    exact ⟨file, ⟨pos, hrefers⟩, e, he⟩

/-- Replacing fails with what the first file fails with that cannot be expanded. -/
theorem resultIn_resolve_eq_error_iff {t : Tree} {fs : FileSystem} {base : Path} {e : Error} :
    (resolve base t).resultIn fs = .error e ↔
      ∃ pos file, RefersAt t pos file ∧ codeOf fs base file = .error e ∧
        ∀ pos' file', RefersAt t pos' file' → Before pos' pos →
          ∃ text, codeOf fs base file' = .ok text := by
  obtain ⟨files, hfiles⟩ := exists_refers t
  rw [← failure?_eq_some_iff, hfiles.failure_eq, List.findSome?_eq_some_iff]
  constructor
  · -- the place of the first failure in the list is its position in the document
    rintro ⟨before, file, after, heq, hfailure, hbefore⟩
    obtain ⟨pos, hrefers, hearlier⟩ := hfiles.lists.front_iff.mp ⟨before, after, heq, hbefore⟩
    exact ⟨pos, file, hrefers, failure?_eq_some_iff.mp hfailure, fun pos' file' hrefers' hlt =>
      failure?_eq_none_iff.mp (hearlier pos' file' hrefers' hlt)⟩
  · rintro ⟨pos, file, hrefers, hfailure, hearlier⟩
    obtain ⟨before, after, heq, hbefore⟩ := hfiles.lists.front_iff.mpr
      ⟨pos, hrefers, fun pos' file' hrefers' hlt =>
        failure?_eq_none_iff.mpr (hearlier pos' file' hrefers' hlt)⟩
    exact ⟨before, file, after, heq, failure?_eq_some_iff.mpr hfailure, hbefore⟩

/-! ## Replacing twice -/

/-- Items that are left as they are make a list that is. -/
theorem resolveItems_of_forall {base : Path} {items : List Tree}
    (h : ∀ t ∈ items, resolve base t = pure t) : resolveItems base items = pure items := by
  induction items with
  | nil => rfl
  | cons t items ih =>
    obtain ⟨hfirst, hrest⟩ := List.forall_mem_cons.mp h
    rw [resolveItems, hfirst, pure_bind, ih hrest, pure_bind]

/-- Entries without references whose values are left as they are make a mapping that is. -/
theorem resolveEntries_of_forall {base : Path} {entries : List (Tree × Tree)}
    (hreferences : ∀ entry ∈ entries, entryReference? entry.1 entry.2 = none)
    (hvalues : ∀ entry ∈ entries, resolve base entry.2 = pure entry.2) :
    resolveEntries base entries = pure entries := by
  induction entries with
  | nil => rfl
  | cons entry entries ih =>
    obtain ⟨hreference, hreferencesRest⟩ := List.forall_mem_cons.mp hreferences
    obtain ⟨hvalue, hvaluesRest⟩ := List.forall_mem_cons.mp hvalues
    obtain ⟨key, value⟩ := entry
    simp only [resolveEntries, hreference, hvalue, pure_bind, ih hreferencesRest hvaluesRest]

/-- Replacing makes no references. -/
theorem reference?_of_replaced {code : String → Except Error String} {value value' : Tree}
    {file : String} (h : Replaced code value value') (hreference : reference? value' = some file) :
    reference? value = some file := by
  obtain ⟨target, rfl, htarget⟩ := reference?_eq_some_iff.mp hreference
  cases h with
  | same _ _ => exact hreference
  | mapping hentries =>
    cases hentries with
    | reference href _ _ =>
      -- the name of the only entry does not end in `Code`
      have hfile : isCodeField (.text "file") = false := by decide
      rw [isCodeField_iff.mpr href.1] at hfile
      cases hfile
    | other _ hvalue hrest =>
      -- the name of the file is left as it is, since it has no parts
      cases hrest
      cases hvalue with
      | same _ _ => exact hreference
      | sequence _ => cases htarget
      | mapping _ => cases htarget

/-- The items of a list in which references are replaced are left as they are. -/
theorem forall_of_replacedItems {code : String → Except Error String} {q : Tree → Prop}
    {items items' : List Tree} (h : ∀ t ∈ items, ∀ t', Replaced code t t' → q t')
    (hitems : ReplacedItems code items items') : ∀ t' ∈ items', q t' := by
  induction items generalizing items' with
  | nil =>
    cases hitems
    exact List.forall_mem_nil _
  | cons t items ih =>
    obtain ⟨hfirst, hrest⟩ := List.forall_mem_cons.mp h
    cases hitems with
    | cons ht hitems => exact List.forall_mem_cons.mpr ⟨hfirst _ ht, ih hrest hitems⟩

/-- The entries of a mapping in which references are replaced are none, and their values are left as
they are. -/
theorem forall_of_replacedEntries {code : String → Except Error String} {q : Tree → Prop}
    {entries entries' : List (Tree × Tree)}
    (h : ∀ entry ∈ entries, ∀ t', Replaced code entry.2 t' → q t') (htext : ∀ text, q (.text text))
    (hentries : ReplacedEntries code entries entries') :
    ∀ entry ∈ entries', entryReference? entry.1 entry.2 = none ∧ q entry.2 := by
  induction entries generalizing entries' with
  | nil =>
    cases hentries
    exact List.forall_mem_nil _
  | cons entry entries ih =>
    obtain ⟨hfirst, hrest⟩ := List.forall_mem_cons.mp h
    cases hentries with
    | reference _ _ hentries =>
      -- the text that has been put there is no reference
      refine List.forall_mem_cons.mpr ⟨⟨?_, htext _⟩, ih hrest hentries⟩
      exact ite_self _
    | other hnone hvalue hentries =>
      refine List.forall_mem_cons.mpr ⟨⟨?_, hfirst _ hvalue⟩, ih hrest hentries⟩
      refine entryReference?_eq_none_iff.mpr fun file href => hnone file ?_
      rw [IsReference, ← reference?_eq_some_iff] at href ⊢
      exact ⟨href.1, reference?_of_replaced hvalue href.2⟩

/-- Where references have been replaced, there are none left. -/
theorem resolve_of_replaced {code : String → Except Error String} {t t' : Tree}
    (h : Replaced code t t') (base : Path) : resolve base t' = pure t' := by
  -- a tree without parts is left as it is
  have hsame {t : Tree} (hitems : ∀ items, t ≠ .sequence items)
      (hentries : ∀ entries, t ≠ .mapping entries) {t' : Tree} (h : Replaced code t t') :
      resolve base t' = pure t' := by
    cases h with
    | same hitems hentries => exact resolve_of_ne hitems hentries base
    | sequence _ => exact absurd rfl (hitems _)
    | mapping _ => exact absurd rfl (hentries _)
  induction t using Tree.induction generalizing t' with
  | sequence items ih =>
    cases h with
    | same hitems _ => exact absurd rfl (hitems _)
    | sequence hitems =>
      have hsame := forall_of_replacedItems (fun t ht t' h => ih t ht h) hitems
      rw [resolve, resolveItems_of_forall hsame, map_pure]
  | mapping entries ih =>
    cases h with
    | same _ hentries => exact absurd rfl (hentries _)
    | mapping hentries =>
      have hsame := forall_of_replacedEntries (fun entry hentry t' h => ih entry hentry h)
        (fun text => rfl) hentries
      rw [resolve, resolveEntries_of_forall (fun entry hentry => (hsame entry hentry).1)
        fun entry hentry => (hsame entry hentry).2, map_pure]
  | _ => exact hsame (by simp) (by simp) h

/-- The references of a tree are replaced by the expanded texts of the files, each of them expanded
on its own, and nothing else changes in the tree. This fails exactly if some file cannot be
expanded, and then with what the first one in the document fails with. Only the log of the session
changes. Where references have been replaced, nothing is replaced again, and nothing is read. -/
theorem resolve_replaces_references (base : Path) (t : Tree) (s : Session) :
    (∀ t', ((resolve base t).start s).1 = .ok t' ↔ Replaced (codeOf s.files base) t t') ∧
    ((∃ e, ((resolve base t).start s).1 = .error e) ↔
      ∃ pos file e, RefersAt t pos file ∧ codeOf s.files base file = .error e) ∧
    (∀ e, ((resolve base t).start s).1 = .error e ↔
      ∃ pos file, RefersAt t pos file ∧ codeOf s.files base file = .error e ∧
        ∀ pos' file', RefersAt t pos' file' → Before pos' pos →
          ∃ text, codeOf s.files base file' = .ok text) ∧
    (∃ entries, ((resolve base t).start s).2 = s.logged entries) ∧
    ∀ t', ((resolve base t).start s).1 = .ok t' → ∀ base', resolve base' t' = pure t' := by
  obtain ⟨entries, hstart⟩ := onlyReads_resolve base t s
  rw [hstart]
  refine ⟨fun t' => resultIn_resolve_eq_ok_iff, exists_resultIn_resolve_eq_error_iff,
    fun e => resultIn_resolve_eq_error_iff, ⟨entries, rfl⟩, fun t' hok base' => ?_⟩
  exact resolve_of_replaced (resultIn_resolve_eq_ok_iff.mp hok) base'

/-- A demo with two places for code. Its last entry has the key and the value that a reference has
inside, but is none. -/
def waveTree (code : Tree) : Tree :=
  .mapping [(.text "commonCode", code),
    (.text "passes", .sequence [.mapping [(.text "vertexCode", code)]]),
    (.text "file", .text "wave.glsl")]

/-- A file that is referred to in both places is put into both. -/
theorem resolve_replaces_references_wave :
    ((resolve ⟨"demo"⟩ (waveTree (.mapping [(.text "file", .text "wave.glsl")]))).start
      ⟨FileSystem.empty.place (⟨"demo/wave.glsl"⟩ : Path).location
        (.file "float wave();".toUTF8), [], []⟩).1 = .ok (waveTree (.text "float wave();")) := by
  have hread : (FileSystem.empty.place (⟨"demo/wave.glsl"⟩ : Path).location
      (.file "float wave();".toUTF8)).readAt
        ((⟨"demo"⟩ : Path).join ⟨"wave.glsl"⟩).normalize.location = .ok "float wave();" := rfl
  have hfree : (Directive.splitFirst [] "float wave();".toList).2 = none := by decide +kernel
  have hcode := FileSystem.expanded_of_free hread hfree
  have hwave (stem : String) (key : Tree) (hkey : key.text? = some (stem ++ "Code")) :
      IsReference key (.mapping [(.text "file", .text "wave.glsl")]) "wave.glsl" :=
    ⟨⟨stem, hkey⟩, _, rfl, rfl⟩
  have hnone {key value : Tree} (h : entryReference? key value = none) :=
    entryReference?_eq_none_iff.mp h
  refine ((resolve_replaces_references ⟨"demo"⟩ _ _).1 _).mpr (.mapping ?_)
  refine .reference (hwave "common" _ rfl) hcode (.other (hnone rfl) ?_ ?_)
  · exact .sequence (.cons (.mapping (.reference (hwave "vertex" _ rfl) hcode .nil)) .nil)
  · exact .other (hnone rfl) (.same (by simp) (by simp)) .nil

end Manifest

end DemoBuild
