import DemoBuild.Proofs.Files.Path

/-!
# Canonical paths

Every path has a canonical form, which is the path of the location that it leads to. It starts with
all of its climbs, skips nothing, and is never empty: the working directory is `.`. A path may be
brought into this form before others are joined to it, and a detour through a name leads nowhere, so
files that are named from different directories are the same if their canonical paths are.

## Main definitions

* `Path.IsCanonical`: the path is in canonical form;
* `Path.IsOrdinary`: the path is a single name.

## Main results

* `Location.isCanonical_path`: the path of a location is in canonical form;
* `Path.isCanonical_iff`: the canonical paths are those that normalization keeps;
* `Path.normalize_join` and `Path.normalize_join_up_join`: joining before and after normalization;
* `Path.normalize_canonical_join`: all of this, and what it means for included files.
-/

namespace DemoBuild

namespace Path

/-- The path is in canonical form. -/
structure IsCanonical (p : Path) : Prop where
  /-- The path is not empty. -/
  text_ne_empty : p.text ≠ ""
  /-- No component is `.`, unless that is all of the path. -/
  eq_dot : "." ∈ p.components → p.text = "."
  /-- The climbs come first, and none is left behind the root. -/
  climbs : ∃ levels names, p.components = List.replicate levels ".." ++ names ∧ ".." ∉ names ∧
    (p.isAbsolute = true → levels = 0)
  /-- The components are joined by single slashes, and nothing else is written. -/
  text_eq : p.text = (if p.isAbsolute then "/" else "") ++ "/".intercalate p.components

/-- The path is a single name: neither `.` nor `..`, and not behind the root. -/
structure IsOrdinary (p : Path) : Prop where
  /-- The path is relative. -/
  isAbsolute_eq : p.isAbsolute = false
  /-- There is one component, and it is a name. -/
  exists_name : ∃ name, p.components = [name] ∧ name ≠ "." ∧ name ≠ ".."

/-- Without a `.` among them the components are the steps. -/
theorem steps_eq_components {p : Path} (h : "." ∉ p.components) : p.steps = p.components := by
  unfold components at h ⊢
  split at h
  · simp at h
  · next hdot => rw [if_neg hdot]

/-- A single name is a single step. -/
theorem IsOrdinary.exists_steps_eq {p : Path} (h : p.IsOrdinary) :
    ∃ name, p.steps = [name] ∧ name ≠ "." ∧ name ≠ ".." := by
  obtain ⟨name, hname, hdot, hup⟩ := h.exists_name
  refine ⟨name, ?_, hdot, hup⟩
  rw [← hname]
  exact steps_eq_components (by simp [hname, hdot.symm])

end Path

namespace Location

/-! ## The anchor of a location -/

/-- No segment leads to the root or away from below it. -/
theorem anchor_enter_eq_root_iff (l : Location) (s : String) :
    (l.enter s).anchor = .root ↔ l.anchor = .root := by
  obtain ⟨anchor, names⟩ := l
  unfold enter
  split
  · -- a climb stays below the root, or counts one level more
    cases names with
    | cons name names => rfl
    | nil => cases anchor <;> simp [up]
  · split <;> rfl

/-- Absolute paths lead below the root, and no others do from the working directory. -/
theorem anchor_location_eq_root_iff (p : Path) :
    p.location.anchor = .root ↔ p.isAbsolute = true := by
  have hsteps (steps : List String) (l : Location) :
      (steps.foldl enter l).anchor = .root ↔ l.anchor = .root := by
    induction steps generalizing l with
    | nil => rfl
    | cons s steps ih => rw [List.foldl_cons, ih, anchor_enter_eq_root_iff]
  rw [Path.location, follow, hsteps, start]
  cases p.isAbsolute <;> simp [here]

/-- The canonical path is absolute if the location is anchored at the root. -/
theorem isAbsolute_path {l : Location} (hl : l.Canonical) :
    l.path.isAbsolute = decide (l.anchor = .root) := by
  rw [path_eq]
  split
  · next hhere => exact hhere ▸ by decide
  · exact isAbsolute_spelling hl

/-! ## The form of a canonical path -/

/-- The climbs are the first segments. -/
theorem exists_segments_eq {l : Location} (hl : l.Canonical) :
    ∃ levels names, l.segments = List.replicate levels ".." ++ names ∧ ".." ∉ names ∧
      (l.anchor = .root → levels = 0) := by
  obtain ⟨anchor, names⟩ := l
  have hnames : ".." ∉ names.reverse := fun hup => (hl ".." (List.mem_reverse.mp hup)).2.2 rfl
  cases anchor with
  | root => exact ⟨0, names.reverse, rfl, hnames, fun _ => rfl⟩
  | above levels => exact ⟨levels, names.reverse, rfl, hnames, nofun⟩

/-- The path of a location is in canonical form. -/
theorem isCanonical_path {l : Location} (hl : l.Canonical) : l.path.IsCanonical := by
  rw [path_eq]
  split
  · exact ⟨by decide, fun _ => rfl, ⟨0, ["."], by decide, by decide, nofun⟩, by decide⟩
  · next hhere =>
    refine ⟨fun hempty => hhere ?_, fun hdot => ?_, ?_, ?_⟩
    · -- an empty path would lead to the working directory
      rw [← location_spelling hl, Path.location, follow, Path.steps, Path.segments, start,
        Path.isAbsolute, hempty]
      rfl
    · rw [components_spelling hl, ← filter_segments hl] at hdot
      simpa using (List.mem_filter.mp hdot).2
    · obtain ⟨levels, names, hsegments, hup, hroot⟩ := exists_segments_eq hl
      refine ⟨levels, names, (components_spelling hl).trans hsegments, hup, fun habsolute => ?_⟩
      rw [isAbsolute_spelling hl, decide_eq_true_eq] at habsolute
      exact hroot habsolute
    · rw [isAbsolute_spelling hl, components_spelling hl, spelling]
      simp only [decide_eq_true_eq]

end Location

namespace Path

/-- The place that a path leads to has a canonical path. -/
theorem canonical_location (p : Path) : p.location.Canonical :=
  Location.canonical_follow Location.canonical_here p

/-- The canonical path leads to the same place. -/
theorem location_normalize (p : Path) : p.normalize.location = p.location :=
  Location.location_path p.canonical_location

/-- Paths have the same canonical path if they lead to the same place. -/
theorem normalize_eq_iff {p q : Path} : p.normalize = q.normalize ↔ p.location = q.location :=
  ⟨Location.path_injective p.canonical_location q.canonical_location, fun h => by
    rw [normalize, h, normalize]⟩

/-- The canonical path is absolute if the path is. -/
theorem isAbsolute_normalize (p : Path) : p.normalize.isAbsolute = p.isAbsolute := by
  rw [normalize, Location.isAbsolute_path p.canonical_location, Bool.eq_iff_iff,
    decide_eq_true_eq, Location.anchor_location_eq_root_iff]

/-- Climbs and then names lead to the place that is written so. -/
theorem location_of_components {p : Path} (hdot : "." ∉ p.components) {levels : Nat}
    {names : List String} (h : p.components = List.replicate levels ".." ++ names)
    (hup : ".." ∉ names) (hroot : p.isAbsolute = true → levels = 0) :
    p.location = ⟨if p.isAbsolute then .root else .above levels, names.reverse⟩ := by
  have hsteps := steps_eq_components hdot
  have hnames : ∀ name ∈ names, IsName name := by
    intro name hname
    refine isName_of_mem_steps (p := p) ?_ fun hclimb => hup (hclimb ▸ hname)
    rw [hsteps, h]
    exact List.mem_append_right _ hname
  rw [location, Location.follow, hsteps, h, List.foldl_append, Location.start]
  cases habsolute : p.isAbsolute with
  | true =>
    rw [hroot habsolute]
    simp [Location.foldl_enter_names hnames]
  | false => simp [Location.here, Location.foldl_enter_up, Location.foldl_enter_names hnames]

/-- A canonical path is the path of the place that it leads to. -/
theorem IsCanonical.normalize_eq {p : Path} (h : p.IsCanonical) : p.normalize = p := by
  obtain ⟨text⟩ := p
  by_cases hdot : "." ∈ (⟨text⟩ : Path).components
  · obtain rfl : text = "." := h.eq_dot hdot
    decide
  · obtain ⟨levels, names, hcomponents, hup, hroot⟩ := h.climbs
    have htext : text = _ := h.text_eq
    rw [normalize, location_of_components hdot hcomponents hup hroot, Path.mk.injEq]
    cases habsolute : (⟨text⟩ : Path).isAbsolute with
    | true =>
      rw [habsolute, hcomponents, hroot habsolute] at htext
      simpa [Location.path, Location.segments] using htext.symm
    | false =>
      rw [habsolute, hcomponents] at htext
      -- a path without components would be empty
      have hne : List.replicate levels ".." ++ names ≠ [] := by
        rintro hnil
        rw [hnil] at htext
        exact h.text_ne_empty htext
      have hsegments : (⟨.above levels, names.reverse⟩ : Location).segments =
          List.replicate levels ".." ++ names := by
        simp [Location.segments]
      simpa [Location.path, hsegments, hne] using htext.symm

/-- The canonical paths are those that normalization keeps. -/
theorem isCanonical_iff {p : Path} : p.IsCanonical ↔ p.normalize = p :=
  ⟨IsCanonical.normalize_eq, fun h => h ▸ Location.isCanonical_path p.canonical_location⟩

/-! ## Joining -/

/-- A path can be brought into canonical form before another one is joined to it. -/
theorem normalize_join (d x : Path) : (d.join x).normalize = (d.normalize.join x).normalize := by
  rw [normalize_eq_iff, location_join, location_join, location_normalize]

/-- The way into a directory and out of it leads nowhere. -/
theorem location_join_up (d : Path) {x : Path} (hx : x.IsOrdinary) :
    ((d.join x).join ⟨".."⟩).location = d.location := by
  obtain ⟨name, hsteps, hdot, hup⟩ := hx.exists_steps_eq
  have hclimb : (⟨".."⟩ : Path).steps = [".."] := by decide
  rw [location_join, location_join, Location.follow, Location.follow, hsteps, hclimb,
    Location.start, Location.start, hx.isAbsolute_eq]
  simp [Location.enter, Location.up, hdot, hup, isAbsolute]

/-- A detour through a directory can be left out. -/
theorem normalize_join_up_join (d : Path) {x : Path} (hx : x.IsOrdinary) (y : Path) :
    (((d.join x).join ⟨".."⟩).join y).normalize = (d.join y).normalize := by
  rw [normalize_eq_iff, location_join, location_join d y, location_join_up d hx]

/-- Every path has a canonical form: it is not empty, `.` occurs in it on its own only, all climbs
come first, and it is absolute if the path is; normalization keeps it. A path can be brought into
this form before another one is joined to it, and a detour through a directory can be left out. So
two files include the same one, under whatever targets, if the canonical paths that these have from
the directories of the files are the same. -/
theorem normalize_canonical_join :
    (∀ p : Path, p.normalize.IsCanonical ∧ p.normalize.isAbsolute = p.isAbsolute ∧
      p.normalize.normalize = p.normalize) ∧
    (∀ d x : Path, (d.join x).normalize = (d.normalize.join x).normalize) ∧
    (∀ d x y : Path, x.IsOrdinary →
      (((d.join x).join ⟨".."⟩).join y).normalize = (d.join y).normalize) ∧
    ∀ file file' target target' : Path,
      (file.normalize.parent.join target).normalize =
          (file'.normalize.parent.join target').normalize ↔
        file.location.directory.follow target = file'.location.directory.follow target' := by
  refine ⟨fun p => ⟨Location.isCanonical_path p.canonical_location, isAbsolute_normalize p, ?_⟩,
    normalize_join, fun d x y hx => normalize_join_up_join d hx y, fun file file' _ _ => ?_⟩
  · exact (Location.isCanonical_path p.canonical_location).normalize_eq
  · -- a target is followed from the directory in which the file lies
    rw [normalize_eq_iff, location_join, location_join, normalize, normalize,
      Location.location_parent file.canonical_location,
      Location.location_parent file'.canonical_location]

/-- A detour through a directory that is spelled with a slash, from above the working directory. -/
theorem normalize_canonical_join_detour :
    (⟨"lib/."⟩ : Path).IsOrdinary ∧
      ((((⟨"../a"⟩ : Path).join ⟨"lib/."⟩).join ⟨".."⟩).join ⟨"./b.glsl"⟩).normalize =
        ((⟨"../a"⟩ : Path).join ⟨"./b.glsl"⟩).normalize := by
  have hordinary : (⟨"lib/."⟩ : Path).IsOrdinary :=
    ⟨by decide, "lib", by decide, by decide, by decide⟩
  obtain ⟨-, -, hdetour, -⟩ := normalize_canonical_join
  exact ⟨hordinary, hdetour _ _ _ hordinary⟩

/-- Climbs and names are resolved where they can be. -/
example : (⟨"shaders/./lib//../../../common.glsl"⟩ : Path).normalize = ⟨"../common.glsl"⟩ := by
  decide

end Path

end DemoBuild
