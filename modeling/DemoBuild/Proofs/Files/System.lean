import DemoBuild.Files.System
import DemoBuild.Proofs.Failure
import DemoBuild.Proofs.Files.Path

/-!
# What is written is read, and the rest stays

A file that has been written is read with its new text. Everything else that existed before a file
is written or directories are made exists afterwards too, and no other file comes into being.

## Main definitions

* `FileSystem.Preserves`: between two file systems only some locations have changed;
* `FileSystem.Agrees`: two file systems differ in the files at some locations only.

## Main results

* `FileSystem.location_of_locate`: a path that can be followed leads to its location;
* `FileSystem.read_of_write`: what is written is read;
* `FileSystem.preserves_write` and `FileSystem.preserves_makeDirectories`: what stays;
* `FileSystem.Preserves.read`: files elsewhere are read as before;
* `FileSystem.agrees_write`: a text that is written changes the file at its path and nothing else;
* `FileSystem.status_of_locate_join`: what lies in a directory is reached through the directory.
-/

namespace DemoBuild

namespace Location

/-- A segment `.` leads nowhere. -/
theorem foldl_enter_filter (segments : List String) (l : Location) :
    (segments.filter (· ≠ ".")).foldl enter l = segments.foldl enter l := by
  induction segments generalizing l with
  | nil => rfl
  | cons segment segments ih =>
    by_cases hdot : segment = "."
    · have hstay : l.enter "." = l := by simp [enter]
      rw [List.filter_cons_of_neg (by simp [hdot]), ih, List.foldl_cons, hdot, hstay]
    · rw [List.filter_cons_of_pos (by simp [hdot]), List.foldl_cons, List.foldl_cons, ih]

end Location

namespace FileSystem

variable {fs : FileSystem} {l m : Location} {e x : Entry} {p : Path}

/-! ## What is recorded -/

/-- What has been recorded is found. -/
@[simp]
theorem lookup_insert_self (fs : FileSystem) (l : Location) (e : Entry) :
    (fs.insert l e).lookup l = some e := by
  simp [lookup, insert]

/-- What is recorded elsewhere is found as before. -/
theorem lookup_insert_of_ne (fs : FileSystem) (e : Entry) (hne : m ≠ l) :
    (fs.insert l e).lookup m = fs.lookup m := by
  have hl : (decide (l = m)) = false := decide_eq_false (Ne.symm hne)
  simp only [lookup, insert, List.find?_cons, hl, List.find?_filter]
  congr 2
  funext entry
  -- what is found for `m` has not been dropped: only entries for `l` are
  by_cases hentry : entry.1 = m
  · simp [hentry, hne]
  · simp [hentry]

/-! ## What exists -/

/-- An anchor is a directory. -/
@[simp]
theorem entry_nil (fs : FileSystem) (anchor : Anchor) : fs.entry ⟨anchor, []⟩ = .ok .directory :=
  rfl

/-- What exists in a directory. -/
theorem entry_cons_of_directory {anchor : Anchor} {names : List String} (name : String)
    (h : fs.entry ⟨anchor, names⟩ = .ok .directory) :
    fs.entry ⟨anchor, name :: names⟩ =
      if nameLimit < name.utf8ByteSize then .error .nameTooLong
      else
        match fs.lookup ⟨anchor, name :: names⟩ with
        | some e => .ok e
        | none => .error .notFound := by
  have hbelow : fs.entryBelow anchor names = .ok .directory := h
  rw [entry, entryBelow, hbelow]
  rfl

/-- Something exists if it is recorded in a directory under a name that is not too long. -/
theorem entry_cons_eq_ok_iff {anchor : Anchor} {name : String} {names : List String} :
    fs.entry ⟨anchor, name :: names⟩ = .ok e ↔
      fs.entry ⟨anchor, names⟩ = .ok .directory ∧ name.utf8ByteSize ≤ nameLimit ∧
        fs.lookup ⟨anchor, name :: names⟩ = some e := by
  constructor
  · intro h
    have hdirectory : fs.entry ⟨anchor, names⟩ = .ok .directory := by
      rw [entry, entryBelow] at h
      obtain ⟨around, haround, h⟩ := bind_eq_ok_iff.mp h
      cases around with
      | file contents => cases h
      | directory => exact haround
    rw [entry_cons_of_directory name hdirectory] at h
    refine ⟨hdirectory, ?_⟩
    split at h
    · cases h
    · next hfits =>
      refine ⟨Nat.le_of_not_lt hfits, ?_⟩
      split at h
      · next hlookup => rw [hlookup, Except.ok.inj h]
      · cases h
  · rintro ⟨hdirectory, hfits, hlookup⟩
    rw [entry_cons_of_directory name hdirectory, if_neg (Nat.not_lt_of_le hfits), hlookup]

/-- What exists lies in a directory. -/
theorem entry_up (h : fs.entry l = .ok e) : fs.entry l.up = .ok .directory := by
  obtain ⟨anchor, names⟩ := l
  cases names with
  | cons name names => exact (entry_cons_eq_ok_iff.mp h).1
  | nil => cases anchor <;> rfl

/-- A segment leads from a directory to what lies in a directory. -/
theorem entry_up_enter (h : fs.entry l = .ok .directory) (segment : String) :
    fs.entry (l.enter segment).up = .ok .directory := by
  rw [Location.enter]
  split
  · exact entry_up (entry_up h)
  · split
    · exact entry_up h
    · exact h

/-- Whatever is recorded where no directory is, what exists elsewhere stays. -/
theorem entry_insert_of_ne (e : Entry) (hl : fs.entry l ≠ .ok .directory) (hne : m ≠ l)
    (hm : fs.entry m = .ok x) : (fs.insert l e).entry m = .ok x := by
  obtain ⟨anchor, names⟩ := m
  induction names generalizing x with
  | nil => exact hm
  | cons name names ih =>
    obtain ⟨hdirectory, hfits, hlookup⟩ := entry_cons_eq_ok_iff.mp hm
    -- the directories on the way are not `l`, which is none, so they stay by induction
    have haround : (⟨anchor, names⟩ : Location) ≠ l := fun heq => hl (heq ▸ hdirectory)
    exact entry_cons_eq_ok_iff.mpr
      ⟨ih haround hdirectory, hfits, by rw [lookup_insert_of_ne fs e hne, hlookup]⟩

/-- Something can be put at the location: it lies in a directory and is none itself, and its name is
not too long. -/
structure IsFree (fs : FileSystem) (l : Location) : Prop where
  /-- It lies in a directory. -/
  around : fs.entry l.up = .ok .directory
  /-- It is no directory. -/
  ne_directory : fs.entry l ≠ .ok .directory
  /-- Its name is not too long. -/
  fits : fs.entry l ≠ .error .nameTooLong

/-- What is recorded where something can be put exists. -/
theorem IsFree.entry_insert_self (h : fs.IsFree l) (e : Entry) :
    (fs.insert l e).entry l = .ok e := by
  obtain ⟨anchor, names⟩ := l
  cases names with
  | nil => exact absurd (entry_nil fs anchor) h.ne_directory
  | cons name names =>
    -- the directory around stays; the name fits, or there would be another failure
    have haround : fs.entry ⟨anchor, names⟩ = .ok .directory := h.around
    have hfits := h.fits
    rw [entry_cons_of_directory name haround] at hfits
    refine entry_cons_eq_ok_iff.mpr ⟨?_, Nat.le_of_not_lt fun hlong => hfits (if_pos hlong), ?_⟩
    · exact entry_insert_of_ne e h.ne_directory (by simp) haround
    · exact lookup_insert_self fs _ e

/-- Nothing is recorded where something could be but nothing is. -/
theorem lookup_eq_none (haround : fs.entry l.up = .ok .directory)
    (h : fs.entry l = .error .notFound) : fs.lookup l = none := by
  obtain ⟨anchor, names⟩ := l
  cases names with
  | nil => cases h
  | cons name names =>
    rw [entry_cons_of_directory name haround] at h
    split at h
    · cases h
    · split at h
      · cases h
      · next hnone => exact hnone

/-! ## Following paths -/

/-- The need for a directory is met by a directory only. -/
theorem needDirectory_eq_ok_iff {u : Unit} :
    fs.needDirectory l = .ok u ↔ fs.entry l = .ok .directory := by
  rw [needDirectory, bind_eq_ok_iff]
  constructor
  · rintro ⟨e, he, h⟩
    cases e with
    | file contents => cases h
    | directory => exact he
  · intro h
    exact ⟨.directory, h, rfl⟩

/-- A segment is followed from a directory. -/
theorem walk_cons_eq_ok_iff {segment : String} {segments : List String} :
    fs.walk l (segment :: segments) = .ok m ↔
      fs.entry l = .ok .directory ∧ fs.walk (l.enter segment) segments = .ok m := by
  rw [walk, bind_eq_ok_iff]
  constructor
  · rintro ⟨u, hu, h⟩
    exact ⟨needDirectory_eq_ok_iff.mp hu, h⟩
  · rintro ⟨hl, h⟩
    exact ⟨(), needDirectory_eq_ok_iff.mpr hl, h⟩

/-- The last segment is followed from a directory. -/
theorem walk_concat_eq_ok_iff {segments : List String} {segment : String} :
    fs.walk l (segments ++ [segment]) = .ok m ↔
      ∃ around, fs.walk l segments = .ok around ∧ fs.entry around = .ok .directory ∧
        around.enter segment = m := by
  induction segments generalizing l with
  | nil =>
    rw [List.nil_append, walk_cons_eq_ok_iff]
    simp [walk]
  | cons first rest ih =>
    simp only [List.cons_append, walk_cons_eq_ok_iff, ih, and_assoc, exists_and_left]

/-- Segments that can be followed lead where they lead by name. -/
theorem eq_foldl_of_walk {segments : List String} (h : fs.walk l segments = .ok m) :
    m = segments.foldl Location.enter l := by
  induction segments generalizing l with
  | nil => exact (Except.ok.inj h).symm
  | cons segment segments ih => exact ih (walk_cons_eq_ok_iff.mp h).2

/-- Segments that can be followed lead to what lies in a directory. -/
theorem entry_up_of_walk {segments : List String} (hl : fs.entry l.up = .ok .directory)
    (h : fs.walk l segments = .ok m) : fs.entry m.up = .ok .directory := by
  induction segments generalizing l with
  | nil => exact Except.ok.inj h ▸ hl
  | cons segment segments ih =>
    obtain ⟨hdirectory, hrest⟩ := walk_cons_eq_ok_iff.mp h
    exact ih (entry_up_enter hdirectory segment) hrest

/-- When a path can be followed. -/
theorem locate_eq_ok_iff :
    fs.locate p = .ok l ↔
      refusal? p = none ∧ p.text.isEmpty = false ∧
        fs.walk (Location.here.start p) p.segments = .ok l ∧
        (p.hasTrailingSlash = true → fs.entry l = .ok .directory) := by
  rw [locate]
  cases refusal? p with
  | some reason =>
    constructor
    · intro h
      cases h
    · rintro ⟨h, -⟩
      cases h
  | none =>
    cases p.text.isEmpty with
    | true =>
      constructor
      · intro h
        cases h
      · rintro ⟨-, h, -⟩
        cases h
    | false =>
      simp only [true_and, Bool.false_eq_true, if_false, bind_eq_ok_iff, mapError_eq_ok_iff]
      -- only a slash at the end asks what the location is
      cases p.hasTrailingSlash with
      | false => simp [pure, Except.pure]
      | true =>
        simp only [if_true, bind_eq_ok_iff, mapError_eq_ok_iff, needDirectory_eq_ok_iff]
        constructor
        · rintro ⟨m, hwalk, -, hdirectory, h⟩
          obtain rfl := Except.ok.inj h
          exact ⟨hwalk, fun _ => hdirectory⟩
        · rintro ⟨hwalk, hdirectory⟩
          exact ⟨l, hwalk, (), hdirectory trivial, rfl⟩

/-- A path that can be followed leads to its location. -/
theorem location_of_locate (h : fs.locate p = .ok l) : p.location = l := by
  obtain ⟨-, -, hwalk, -⟩ := locate_eq_ok_iff.mp h
  rw [eq_foldl_of_walk hwalk, Path.location, Location.follow, Path.steps,
    Location.foldl_enter_filter]

/-- A path that can be followed leads to what lies in a directory. -/
theorem entry_up_of_locate (h : fs.locate p = .ok l) : fs.entry l.up = .ok .directory := by
  obtain ⟨-, -, hwalk, -⟩ := locate_eq_ok_iff.mp h
  refine entry_up_of_walk ?_ hwalk
  rw [Location.start]
  split <;> rfl

/-- The start of a path that is not refused is not refused. -/
theorem refusal?_of_append {a b : String} (h : refusal? ⟨a ++ b⟩ = none) :
    refusal? ⟨a⟩ = none := by
  rw [refusal?] at h ⊢
  split at h
  · cases h
  next hzero =>
  split at h
  · cases h
  next hlong =>
  have hstart : ¬ a.toList.any (·.toNat == 0) = true := by
    simp only [String.toList_append, List.any_append, Bool.or_eq_true, not_or] at hzero
    exact hzero.1
  rw [String.utf8ByteSize_append] at hlong
  rw [if_neg hstart]
  exact if_neg fun hlong' => hlong (Nat.lt_of_lt_of_le hlong' (Nat.le_add_right _ _))

/-- If a path leads to something below a directory, the path of the directory leads to one, unless
it is empty. -/
theorem status_of_locate_join {name : String} (hname : Path.IsSegment name)
    (h : fs.locate (p.join ⟨name⟩) = .ok l) : p.text = "" ∨ fs.status p = .ok .directory := by
  obtain ⟨hrefusal, -, hwalk, -⟩ := locate_eq_ok_iff.mp h
  have hrelative := Path.isAbsolute_of_isSegment hname
  by_cases hempty : p.text = ""
  · exact .inl hempty
  right
  -- the path of the directory is the start of the joined path
  have hstart : refusal? p = none := by
    simp only [Path.join, hrelative, Bool.false_eq_true, if_false] at hrefusal
    split at hrefusal
    · exact refusal?_of_append hrefusal
    · rw [String.append_assoc] at hrefusal
      exact refusal?_of_append hrefusal
  rw [Path.segments_join hrelative, Path.segments_of_isSegment hname, walk_concat_eq_ok_iff,
    Location.start, Path.isAbsolute_join hrelative] at hwalk
  obtain ⟨around, haround, hdirectory, -⟩ := hwalk
  have hlocate : fs.locate p = .ok around :=
    locate_eq_ok_iff.mpr ⟨hstart, by simpa using hempty, haround, fun _ => hdirectory⟩
  rw [status]
  exact bind_eq_ok_iff.mpr ⟨around, hlocate, mapError_eq_ok_iff.mpr hdirectory⟩

/-- What is read is the text of a file at the location of the path. -/
theorem read_eq_ok_iff {text : String} :
    fs.read p = .ok text ↔
      ∃ l contents, fs.locate p = .ok l ∧ fs.entry l = .ok (.file contents) ∧
        String.fromUTF8? contents = some text := by
  rw [read, status]
  simp only [bind_eq_ok_iff, mapError_eq_ok_iff]
  constructor
  · rintro ⟨e, ⟨l, hl, he⟩, h⟩
    cases e with
    | directory => cases h
    | file contents =>
      refine ⟨l, contents, hl, he, ?_⟩
      rw [Entry.read] at h
      split at h
      · next htext => rw [htext, Except.ok.inj h]
      · cases h
  · rintro ⟨l, contents, hl, he, htext⟩
    refine ⟨_, ⟨l, hl, he⟩, ?_⟩
    rw [Entry.read, htext]

/-- What is read is a file. -/
theorem isFile_of_read {text : String} (h : fs.read p = .ok text) : fs.isFile p = true := by
  obtain ⟨l, contents, hl, he, -⟩ := read_eq_ok_iff.mp h
  have hstatus : fs.status p = .ok (.file contents) := by
    rw [status]
    exact bind_eq_ok_iff.mpr ⟨l, hl, mapError_eq_ok_iff.mpr he⟩
  rw [isFile, hstatus]

/-! ## What changes -/

/-- Between two file systems only files at some locations have changed: what existed elsewhere
exists, directories exist everywhere, and no other file is recorded than before. -/
structure Preserves (changed : List Location) (before after : FileSystem) : Prop where
  /-- Directories are kept. -/
  directory {l : Location} : before.entry l = .ok .directory → after.entry l = .ok .directory
  /-- What exists elsewhere is kept. -/
  entry {l : Location} {e : Entry} :
    l ∉ changed → before.entry l = .ok e → after.entry l = .ok e
  /-- The files that are recorded elsewhere are the same. -/
  file {l : Location} {contents : ByteArray} :
    l ∉ changed → (after.lookup l = some (.file contents) ↔ before.lookup l = some (.file contents))

namespace Preserves

variable {changed : List Location} {before between after : FileSystem}

/-- Nothing changes. -/
theorem refl (changed : List Location) (fs : FileSystem) : Preserves changed fs fs where
  directory := id
  entry := fun _ => id
  file := fun _ => Iff.rfl

/-- One change after another. -/
theorem trans (h : Preserves changed before between) (h' : Preserves changed between after) :
    Preserves changed before after where
  directory := fun hl => h'.directory (h.directory hl)
  entry := fun hl he => h'.entry hl (h.entry hl he)
  file := fun hl => (h'.file hl).trans (h.file hl)

/-- More may have changed. -/
theorem mono {more : List Location} (h : Preserves changed before after) (hsub : changed ⊆ more) :
    Preserves more before after where
  directory := h.directory
  entry := fun hl => h.entry fun hmem => hl (hsub hmem)
  file := fun hl => h.file fun hmem => hl (hsub hmem)

/-- Segments that could be followed can still be followed. -/
theorem walk (h : Preserves changed before after) {segments : List String} {l m : Location}
    (hwalk : before.walk l segments = .ok m) : after.walk l segments = .ok m := by
  induction segments generalizing l with
  | nil => exact hwalk
  | cons segment segments ih =>
    obtain ⟨hl, hrest⟩ := walk_cons_eq_ok_iff.mp hwalk
    exact walk_cons_eq_ok_iff.mpr ⟨h.directory hl, ih hrest⟩

/-- Paths that could be followed can still be followed. -/
theorem locate (h : Preserves changed before after) {p : Path} {l : Location}
    (hlocate : before.locate p = .ok l) : after.locate p = .ok l := by
  obtain ⟨hrefusal, hempty, hwalk, hslash⟩ := locate_eq_ok_iff.mp hlocate
  exact locate_eq_ok_iff.mpr ⟨hrefusal, hempty, h.walk hwalk, fun hp => h.directory (hslash hp)⟩

/-- Files that have not changed are read as before. -/
theorem read (h : Preserves changed before after) {p : Path} {text : String}
    (hp : p.location ∉ changed) (hread : before.read p = .ok text) :
    after.read p = .ok text := by
  obtain ⟨l, contents, hlocate, hentry, htext⟩ := read_eq_ok_iff.mp hread
  have hl : l ∉ changed := location_of_locate hlocate ▸ hp
  exact read_eq_ok_iff.mpr ⟨l, contents, h.locate hlocate, h.entry hl hentry, htext⟩

end Preserves

/-- What is put where no directory is changes nothing else. -/
theorem preserves_insert (e : Entry) (hl : fs.entry l ≠ .ok .directory) :
    Preserves [l] fs (fs.insert l e) where
  directory := fun {m} hm =>
    entry_insert_of_ne e hl (fun heq => hl (heq ▸ hm)) hm
  entry := fun hm => entry_insert_of_ne e hl (by simpa using hm)
  file := fun {m _} hm => by rw [lookup_insert_of_ne fs e (by simpa using hm)]

/-- No directory is where a file is put. -/
theorem ne_of_entry_insert_file {contents : ByteArray} (hl : fs.entry l ≠ .ok .directory)
    (hm : (fs.insert l (.file contents)).entry m = .ok .directory) : m ≠ l := by
  rintro rfl
  obtain ⟨anchor, names⟩ := m
  cases names with
  | nil => exact hl (entry_nil fs anchor)
  | cons name names =>
    obtain ⟨-, -, hlookup⟩ := entry_cons_eq_ok_iff.mp hm
    rw [lookup_insert_self] at hlookup
    cases hlookup

/-- Where a file is put, nothing comes into being elsewhere. -/
theorem entry_of_entry_insert_file {contents : ByteArray} (hl : fs.entry l ≠ .ok .directory)
    (hne : m ≠ l) (hm : (fs.insert l (.file contents)).entry m = .ok x) : fs.entry m = .ok x := by
  obtain ⟨anchor, names⟩ := m
  induction names generalizing x with
  | nil => exact hm
  | cons name names ih =>
    obtain ⟨hdirectory, hfits, hlookup⟩ := entry_cons_eq_ok_iff.mp hm
    rw [lookup_insert_of_ne fs _ hne] at hlookup
    exact entry_cons_eq_ok_iff.mpr
      ⟨ih (ne_of_entry_insert_file hl hdirectory) hdirectory, hfits, hlookup⟩

/-- A file that is put where no directory is leads back by changing nothing else. -/
theorem preserves_of_insert_file (contents : ByteArray) (hl : fs.entry l ≠ .ok .directory) :
    Preserves [l] (fs.insert l (.file contents)) fs where
  directory := fun hm => entry_of_entry_insert_file hl (ne_of_entry_insert_file hl hm) hm
  entry := fun hm => entry_of_entry_insert_file hl (by simpa using hm)
  file := fun {m _} hm => by rw [lookup_insert_of_ne fs _ (by simpa using hm)]

/-- A text is written where something can be put. -/
theorem insert_of_write {text : String} {after : FileSystem} (h : fs.write p text = .ok after) :
    fs.locate p = .ok p.location ∧ fs.IsFree p.location ∧
      after = fs.insert p.location (.file text.toUTF8) := by
  obtain ⟨l, hlocate, h⟩ := bind_eq_ok_iff.mp h
  rw [location_of_locate hlocate]
  have haround := entry_up_of_locate hlocate
  split at h
  · cases h
  · next contents hentry =>
    exact ⟨hlocate, ⟨haround, by simp [hentry], by simp [hentry]⟩, (Except.ok.inj h).symm⟩
  · next hentry =>
    exact ⟨hlocate, ⟨haround, by simp [hentry], by simp [hentry]⟩, (Except.ok.inj h).symm⟩
  · cases h

/-- Writing a text changes the file at the path only. -/
theorem preserves_write {text : String} {after : FileSystem} (h : fs.write p text = .ok after) :
    Preserves [p.location] fs after := by
  obtain ⟨-, hfree, rfl⟩ := insert_of_write h
  exact preserves_insert _ hfree.ne_directory

/-- What has been written is read. -/
theorem read_of_write {text : String} {after : FileSystem} (h : fs.write p text = .ok after) :
    after.read p = .ok text := by
  have hlocate := (preserves_write h).locate (insert_of_write h).1
  obtain ⟨-, hfree, rfl⟩ := insert_of_write h
  refine read_eq_ok_iff.mpr ⟨_, _, hlocate, hfree.entry_insert_self _, ?_⟩
  rw [String.fromUTF8?]
  simp [String.isValidUTF8, String.fromUTF8]

/-- Two file systems differ only in the files at some locations: nothing else exists in one of them
only. -/
structure Agrees (changed : List Location) (fs fs' : FileSystem) : Prop where
  /-- From the first to the second only these files change. -/
  forth : Preserves changed fs fs'
  /-- From the second to the first only these files change. -/
  back : Preserves changed fs' fs

namespace Agrees

variable {changed : List Location} {between after : FileSystem}

/-- A file system agrees with itself. -/
theorem refl (changed : List Location) (fs : FileSystem) : Agrees changed fs fs :=
  ⟨.refl _ _, .refl _ _⟩

/-- Agreement can be read either way. -/
theorem symm (h : Agrees changed fs after) : Agrees changed after fs :=
  ⟨h.back, h.forth⟩

/-- One change after another. -/
theorem trans (h : Agrees changed fs between) (h' : Agrees changed between after) :
    Agrees changed fs after :=
  ⟨h.forth.trans h'.forth, h'.back.trans h.back⟩

/-- More may differ. -/
theorem mono {more : List Location} (h : Agrees changed fs after) (hsub : changed ⊆ more) :
    Agrees more fs after :=
  ⟨h.forth.mono hsub, h.back.mono hsub⟩

/-- Files elsewhere are read alike. -/
theorem read_eq_ok_iff (h : Agrees changed fs after) (hp : p.location ∉ changed) {text : String} :
    fs.read p = .ok text ↔ after.read p = .ok text :=
  ⟨h.forth.read hp, h.back.read hp⟩

end Agrees

/-- Before and after a text is written everything but the file at the path is the same. -/
theorem agrees_write {text : String} {after : FileSystem} (h : fs.write p text = .ok after) :
    Agrees [p.location] fs after := by
  refine ⟨preserves_write h, ?_⟩
  obtain ⟨-, hfree, rfl⟩ := insert_of_write h
  exact preserves_of_insert_file _ hfree.ne_directory

/-- A directory that is put where nothing is changes nothing that exists. -/
theorem preserves_insert_directory (haround : fs.entry l.up = .ok .directory)
    (hl : fs.entry l = .error .notFound) : Preserves [] fs (fs.insert l .directory) where
  directory := fun {m} hm =>
    entry_insert_of_ne .directory (by simp [hl]) (fun heq => by simp [heq, hl] at hm) hm
  entry := fun {m e} _ hm =>
    entry_insert_of_ne .directory (by simp [hl]) (fun heq => by simp [heq, hl] at hm) hm
  file := fun {m contents} _ => by
    -- at `l` there was nothing and is a directory, so neither before nor after a file
    by_cases hm : m = l
    · simp [hm, lookup_eq_none haround hl]
    · rw [lookup_insert_of_ne fs .directory hm]

/-- A directory is made in a directory, where nothing is. -/
theorem insert_of_makeDirectory {after : FileSystem} (h : fs.makeDirectory p = .ok after) :
    ∃ l, fs.entry l.up = .ok .directory ∧ fs.entry l = .error .notFound ∧
      after = fs.insert l .directory := by
  rw [makeDirectory] at h
  split at h
  · cases h
  cases hempty : p.text.isEmpty with
  | true =>
    rw [hempty] at h
    cases h
  | false =>
    simp only [hempty, Bool.false_eq_true, if_false] at h
    split at h
    · cases h
    next last _ =>
    obtain ⟨around, -, h⟩ := bind_eq_ok_iff.mp h
    obtain ⟨u, hneed, h⟩ := bind_eq_ok_iff.mp h
    have haround := needDirectory_eq_ok_iff.mp (mapError_eq_ok_iff.mp hneed)
    split at h
    · cases h
    split at h
    · cases h
    · next hentry =>
      exact ⟨around.enter last, entry_up_enter haround last, hentry, (Except.ok.inj h).symm⟩
    · cases h

/-- Making a directory changes nothing that exists. -/
theorem preserves_makeDirectory {after : FileSystem} (h : fs.makeDirectory p = .ok after) :
    Preserves [] fs after := by
  obtain ⟨l, haround, hl, rfl⟩ := insert_of_makeDirectory h
  exact preserves_insert_directory haround hl

/-- Making several directories changes nothing that exists, also where it fails. -/
theorem preserves_makeAll (fs : FileSystem) (ps : List Path) :
    Preserves [] fs (fs.makeAll ps).1 := by
  induction ps generalizing fs with
  | nil => exact .refl [] fs
  | cons p around ih =>
    have horFound (fs' : FileSystem) (reason : FileError) (h : Preserves [] fs fs') :
        Preserves [] fs (if fs'.isDirectory p then (fs', none) else (fs', some reason)).1 := by
      split <;> exact h
    -- the cases of the program: an empty path, one step, or the directories around first
    rw [makeAll]
    split
    · exact .refl [] fs
    · split
      · next made hmade => exact preserves_makeDirectory hmade
      · have hbelow := ih fs
        split
        · next made reason hmade =>
          rw [hmade] at hbelow
          exact hbelow
        · next made hmade =>
          rw [hmade] at hbelow
          split
          · next again hagain => exact hbelow.trans (preserves_makeDirectory hagain)
          · exact horFound _ _ hbelow
      · exact horFound _ _ (.refl [] fs)

/-- Making a directory and those around it changes nothing that exists, also where it fails. -/
theorem preserves_makeDirectories (fs : FileSystem) (p : Path) :
    Preserves [] fs (fs.makeDirectories p).1 :=
  preserves_makeAll fs _

end FileSystem

end DemoBuild
