import DemoBuild.Files.Path
import DemoBuild.Proofs.Text.Lines

/-!
# Paths and locations

A location is reached by following its canonical path, and following a joined path is following its
two parts. So the canonical paths can stand for the locations, and the directory in which a file
lies is found on its path.

## Main results

* `Location.location_path`: the canonical path of a location leads to the location;
* `Location.path_injective`: two locations with one canonical path are the same;
* `Path.location_join`: a joined path leads where its second part leads from its first part;
* `Path.location_join_name`: a name leads to what lies in a directory;
* `Location.location_parent`: the path without its last component leads to the directory;
* `Location.canonical_follow`: what a path leads to has a canonical path;
* `Path.location_withTrailingSlash_eq_iff`: where a path leads that ends with a slash.
-/

namespace DemoBuild

namespace Path

/-- `text` can stand between two slashes. -/
def IsSegment (text : String) : Prop :=
  text ≠ "" ∧ '/' ∉ text.toList

/-- `text` names something below a directory. -/
def IsName (text : String) : Prop :=
  IsSegment text ∧ text ≠ "." ∧ text ≠ ".."

/-- Where a file lies, as its path says it. -/
def parent (p : Path) : Path :=
  p.parent?.getD ⟨""⟩

/-! ## Segments -/

/-- A slash separates the segments. -/
theorem segments_append_slash (a b : String) :
    (⟨a ++ "/" ++ b⟩ : Path).segments = (⟨a⟩ : Path).segments ++ (⟨b⟩ : Path).segments := by
  have hsplit : ((a ++ "/" ++ b).toList).splitOn '/' =
      a.toList.splitOn '/' ++ b.toList.splitOn '/' := by
    rw [← List.splitOn_append_cons_self]
    simp
  simp only [segments, hsplit, List.filter_append, List.map_append]

/-- The empty text has no segments. -/
@[simp]
theorem segments_empty : (⟨""⟩ : Path).segments = [] := by
  simp [segments]

/-- A slash in front or behind adds no segment. -/
theorem segments_slash_append (b : String) :
    (⟨"/" ++ b⟩ : Path).segments = (⟨b⟩ : Path).segments := by
  simpa using segments_append_slash "" b

/-- Segments that are joined by slashes are found again. -/
theorem segments_intercalate {segs : List String} (hsegs : ∀ s ∈ segs, IsSegment s) :
    (⟨"/".intercalate segs⟩ : Path).segments = segs := by
  induction segs with
  | nil => simp
  | cons s rest ih =>
    obtain ⟨hne, hslash⟩ := hsegs s List.mem_cons_self
    have hone : (⟨s⟩ : Path).segments = [s] := by
      have hne' : s.toList ≠ [] := by simpa using hne
      simp [segments, List.splitOn_eq_singleton hslash, hne']
    have hrest := ih fun t ht => hsegs t (List.mem_cons_of_mem _ ht)
    cases rest with
    | nil => simpa using hone
    | cons t rest =>
      rw [String.intercalate_cons_cons, segments_append_slash, hone, hrest]
      rfl

/-- Every segment can stand between two slashes. -/
theorem isSegment_of_mem_segments {p : Path} {s : String} (hs : s ∈ p.segments) : IsSegment s := by
  simp only [segments, List.mem_map, List.mem_filter, decide_eq_true_eq] at hs
  obtain ⟨chars, ⟨hmem, hne⟩, rfl⟩ := hs
  refine ⟨by simpa using hne, ?_⟩
  rw [String.toList_ofList]
  exact Text.not_mem_of_mem_splitOn hmem

/-! ## Steps -/

/-- A step other than `..` is a name. -/
theorem isName_of_mem_steps {p : Path} {s : String} (hs : s ∈ p.steps) (hup : s ≠ "..") :
    IsName s := by
  obtain ⟨hmem, hdot⟩ := List.mem_filter.mp hs
  exact ⟨isSegment_of_mem_segments hmem, by simpa using hdot, hup⟩

/-! ## Absolute paths -/

/-- The empty text is no absolute path. -/
@[simp]
theorem isAbsolute_empty : (⟨""⟩ : Path).isAbsolute = false := rfl

/-- A slash in front makes a path absolute. -/
@[simp]
theorem isAbsolute_slash_append (b : String) : (⟨"/" ++ b⟩ : Path).isAbsolute = true := by
  simp [isAbsolute]

/-- Whether a path is absolute is seen at its first character. -/
theorem isAbsolute_append {a : String} (ha : a ≠ "") (b : String) :
    (⟨a ++ b⟩ : Path).isAbsolute = (⟨a⟩ : Path).isAbsolute := by
  have hne : a.toList ≠ [] := by simpa using ha
  obtain ⟨c, rest, heq⟩ := List.exists_cons_of_ne_nil hne
  simp [isAbsolute, heq]

/-- Segments that are joined by slashes are a relative path. -/
theorem isAbsolute_intercalate {segs : List String} (hsegs : ∀ s ∈ segs, IsSegment s) :
    (⟨"/".intercalate segs⟩ : Path).isAbsolute = false := by
  cases segs with
  | nil => simp
  | cons s rest =>
    obtain ⟨hne, hslash⟩ := hsegs s List.mem_cons_self
    have hs : (⟨s⟩ : Path).isAbsolute = false := by
      have hne' : s.toList ≠ [] := by simpa using hne
      obtain ⟨c, chars, heq⟩ := List.exists_cons_of_ne_nil hne'
      have hc : c ≠ '/' := fun h => hslash (heq ▸ h ▸ List.mem_cons_self)
      simp [isAbsolute, heq, hc]
    cases rest with
    | nil => simpa using hs
    | cons t rest =>
      rw [String.intercalate_cons_cons, String.append_assoc, isAbsolute_append hne, hs]

/-! ## Joining -/

/-- A text that ends with a slash is another text and a slash. -/
theorem exists_append_slash {p : Path} (hp : p.hasTrailingSlash = true) :
    ∃ a : String, p.text = a ++ "/" := by
  obtain ⟨chars, heq⟩ := List.getLast?_eq_some_iff.mp (by simpa [hasTrailingSlash] using hp)
  exact ⟨String.ofList chars, String.toList_inj.mp (by simpa using heq)⟩

/-- What is joined to a path is not lost. -/
theorem text_join_ne_empty (p : Path) {q : Path} (hq : q.text ≠ "") : (p.join q).text ≠ "" := by
  unfold join
  split
  · exact hq
  · split <;> simp [hq]

/-- A path with a slash at its end ends with one. -/
theorem hasTrailingSlash_withTrailingSlash (p : Path) :
    (⟨p.withTrailingSlash⟩ : Path).hasTrailingSlash = true := by
  rw [withTrailingSlash]
  split
  · next hslash => exact hslash
  · simp [hasTrailingSlash]

/-- A slash at the end adds no segment. -/
theorem segments_withTrailingSlash (p : Path) :
    (⟨p.withTrailingSlash⟩ : Path).segments = p.segments := by
  rw [withTrailingSlash]
  split
  · rfl
  · simpa using segments_append_slash p.text ""

/-- A slash at the end makes a path absolute if it is all of it. -/
theorem isAbsolute_withTrailingSlash {p : Path} (hp : p.text ≠ "") :
    (⟨p.withTrailingSlash⟩ : Path).isAbsolute = p.isAbsolute := by
  rw [withTrailingSlash]
  split
  · rfl
  · exact isAbsolute_append hp "/"

/-- A path with a slash at its end leads to the same place, unless that slash is all of it. -/
theorem location_withTrailingSlash_eq_iff {p : Path} :
    (⟨p.withTrailingSlash⟩ : Path).location = p.location ↔ p.text ≠ "" := by
  constructor
  · -- the slash alone leads to the root
    rintro h hempty
    rw [show p = ⟨""⟩ from congrArg mk hempty] at h
    exact absurd h (by decide)
  · intro hne
    simp only [location, Location.follow, Location.start, steps, segments_withTrailingSlash,
      isAbsolute_withTrailingSlash hne]

/-- The segments of a joined path, unless its second part starts at the root. -/
theorem segments_join {p q : Path} (hq : q.isAbsolute = false) :
    (p.join q).segments = p.segments ++ q.segments := by
  obtain ⟨a⟩ := p
  obtain ⟨b⟩ := q
  simp only [join, hq, Bool.false_eq_true, if_false]
  split
  · next hedge =>
    rcases Bool.or_eq_true _ _ ▸ hedge with hempty | hslash
    · have ha : a = "" := by simpa using hempty
      subst ha
      simp
    · obtain ⟨start, rfl⟩ := exists_append_slash hslash
      rw [segments_append_slash, ← List.append_nil (segments ⟨start ++ "/"⟩)]
      have hstart := segments_append_slash start ""
      simp only [segments_empty, List.append_nil, String.append_empty] at hstart
      rw [hstart]
      simp
  · exact segments_append_slash a b

/-- The steps of a joined path, unless its second part starts at the root. -/
theorem steps_join {p q : Path} (hq : q.isAbsolute = false) :
    (p.join q).steps = p.steps ++ q.steps := by
  simp only [steps, segments_join hq, List.filter_append]

/-- A joined path starts where its first part starts, unless its second part starts at the root. -/
theorem isAbsolute_join {p q : Path} (hq : q.isAbsolute = false) :
    (p.join q).isAbsolute = p.isAbsolute := by
  obtain ⟨a⟩ := p
  obtain ⟨b⟩ := q
  by_cases ha : a = ""
  · subst ha
    simp [join, hq]
  · simp only [join, hq, Bool.false_eq_true, if_false]
    split
    · exact isAbsolute_append ha b
    · rw [String.append_assoc, isAbsolute_append ha]

/-- Following a joined path is following its parts one after the other. -/
theorem location_join (p q : Path) : (p.join q).location = p.location.follow q := by
  cases hq : q.isAbsolute with
  | true => simp [join, location, Location.follow, Location.start, hq]
  | false =>
    simp only [location, Location.follow, Location.start, isAbsolute_join hq, steps_join hq, hq,
      List.foldl_append, Bool.false_eq_true, if_false]

/-- A segment is the only segment of itself as a path. -/
theorem segments_of_isSegment {name : String} (hname : IsSegment name) :
    (⟨name⟩ : Path).segments = [name] := by
  have hsegs : ∀ s ∈ [name], IsSegment s := by simpa using hname
  simpa using segments_intercalate hsegs

/-- A segment is a relative path. -/
theorem isAbsolute_of_isSegment {name : String} (hname : IsSegment name) :
    (⟨name⟩ : Path).isAbsolute = false := by
  have hsegs : ∀ s ∈ [name], IsSegment s := by simpa using hname
  simpa using isAbsolute_intercalate hsegs

/-- A name leads to what lies in a directory under that name. -/
theorem location_join_name (p : Path) {name : String} (hname : IsName name) :
    (p.join ⟨name⟩).location = ⟨p.location.anchor, name :: p.location.names⟩ := by
  obtain ⟨hsegment, hdot, hup⟩ := hname
  have hsteps : (⟨name⟩ : Path).steps = [name] := by
    simp [steps, segments_of_isSegment hsegment, hdot]
  rw [location_join, Location.follow, hsteps, Location.start, isAbsolute_of_isSegment hsegment]
  simp [Location.enter, hdot, hup]

end Path

namespace Location

/-- Every name of the location can be written in a path. -/
def Canonical (l : Location) : Prop :=
  ∀ name ∈ l.names, Path.IsName name

/-- The working directory has a canonical path. -/
theorem canonical_here : here.Canonical := by
  simp [Canonical, here]

/-! ## Following segments -/

/-- One segment leads to a location with a canonical path. -/
theorem canonical_enter {l : Location} (hl : l.Canonical) {s : String}
    (hs : s ≠ ".." → Path.IsName s) : (l.enter s).Canonical := by
  by_cases hup : s = ".."
  · obtain ⟨anchor, names⟩ := l
    rw [enter, if_pos hup]
    cases names with
    | nil => cases anchor <;> simp [up, Canonical]
    | cons name names => exact fun n hn => hl n (List.mem_cons_of_mem _ hn)
  · obtain ⟨hseg, hdot, -⟩ := hs hup
    rw [enter, if_neg hup, if_neg hdot]
    exact List.forall_mem_cons.mpr ⟨hs hup, hl⟩

/-- Several segments lead to a location with a canonical path. -/
theorem canonical_foldl_enter {steps : List String}
    (hsteps : ∀ s ∈ steps, s ≠ ".." → Path.IsName s) {l : Location} (hl : l.Canonical) :
    (steps.foldl enter l).Canonical := by
  induction steps generalizing l with
  | nil => exact hl
  | cons s rest ih =>
    obtain ⟨hs, hrest⟩ := List.forall_mem_cons.mp hsteps
    exact ih hrest (canonical_enter hl hs)

/-- What a path leads to has a canonical path. -/
theorem canonical_follow {l : Location} (hl : l.Canonical) (p : Path) : (l.follow p).Canonical := by
  refine canonical_foldl_enter (fun s hs hup => Path.isName_of_mem_steps hs hup) ?_
  rw [start]
  split
  · simp [Canonical]
  · exact hl

/-- Names lead down. -/
theorem foldl_enter_names {names : List String} (hnames : ∀ n ∈ names, Path.IsName n)
    (l : Location) : names.foldl enter l = ⟨l.anchor, names.reverse ++ l.names⟩ := by
  induction names generalizing l with
  | nil => rfl
  | cons name names ih =>
    obtain ⟨⟨-, hdot, hup⟩, hrest⟩ := List.forall_mem_cons.mp hnames
    rw [List.foldl_cons, ih hrest, enter, if_neg hup, if_neg hdot]
    simp

/-- Climbing leads up. -/
theorem foldl_enter_up (levels start : Nat) :
    (List.replicate levels "..").foldl enter ⟨.above start, []⟩ =
      ⟨.above (start + levels), []⟩ := by
  induction levels generalizing start with
  | zero => rfl
  | succ levels ih =>
    rw [List.replicate_succ, List.foldl_cons, enter, if_pos rfl, up, ih]
    congr 2
    omega

/-! ## Canonical paths -/

/-- Climbs and names can stand between slashes. -/
theorem isSegment_of_mem_segments {l : Location} (hl : l.Canonical) {s : String}
    (hs : s ∈ l.segments) : Path.IsSegment s := by
  have hname : ∀ n ∈ l.names.reverse, Path.IsSegment n :=
    fun n hn => (hl n (List.mem_reverse.mp hn)).1
  obtain ⟨anchor, names⟩ := l
  cases anchor with
  | root => exact hname s hs
  | above levels =>
    rcases List.mem_append.mp hs with hup | hbelow
    · rw [List.eq_of_mem_replicate hup]
      exact ⟨by decide, by decide⟩
    · exact hname s hbelow

/-- No segment of a canonical path is skipped. -/
theorem filter_segments {l : Location} (hl : l.Canonical) :
    l.segments.filter (· ≠ ".") = l.segments := by
  obtain ⟨anchor, names⟩ := l
  have hnames : ∀ n ∈ names.reverse, n ≠ "." := fun n hn => (hl n (List.mem_reverse.mp hn)).2.1
  rw [List.filter_eq_self]
  intro s hs
  rw [decide_eq_true_eq]
  cases anchor with
  | root => exact hnames s hs
  | above levels =>
    rcases List.mem_append.mp hs with hup | hbelow
    · rw [List.eq_of_mem_replicate hup]
      decide
    · exact hnames s hbelow

/-- Following the segments of the canonical path leads to the location. -/
theorem foldl_enter_segments {l : Location} (hl : l.Canonical) :
    l.segments.foldl enter (if l.anchor = .root then ⟨.root, []⟩ else here) = l := by
  obtain ⟨anchor, names⟩ := l
  have hnames : ∀ n ∈ names.reverse, Path.IsName n := fun n hn => hl n (List.mem_reverse.mp hn)
  cases anchor with
  | root => simp [segments, foldl_enter_names hnames]
  | above levels =>
    simp [segments, here, List.foldl_append, foldl_enter_up, foldl_enter_names hnames]

/-- The path of a location written without `.` for the working directory. -/
def spelling (l : Location) : Path :=
  ⟨(if l.anchor = .root then "/" else "") ++ "/".intercalate l.segments⟩

/-- The segments of the path are those of the location. -/
theorem segments_spelling {l : Location} (hl : l.Canonical) : l.spelling.segments = l.segments := by
  have hsegs := Path.segments_intercalate fun s hs => isSegment_of_mem_segments hl hs
  rw [spelling]
  split
  · rw [Path.segments_slash_append, hsegs]
  · rw [String.empty_append, hsegs]

/-- The path is absolute if the location is anchored at the root. -/
theorem isAbsolute_spelling {l : Location} (hl : l.Canonical) :
    l.spelling.isAbsolute = decide (l.anchor = .root) := by
  rw [spelling]
  split
  · next hroot => simp [hroot]
  · next hroot =>
    rw [String.empty_append,
      Path.isAbsolute_intercalate fun s hs => isSegment_of_mem_segments hl hs]
    simp [hroot]

/-- The path leads to the location. -/
theorem location_spelling {l : Location} (hl : l.Canonical) : l.spelling.location = l := by
  rw [Path.location, follow, Path.steps, segments_spelling hl, filter_segments hl, start,
    isAbsolute_spelling hl]
  simpa using foldl_enter_segments hl

/-- The canonical path is `.` or the path of the segments. -/
theorem path_eq (l : Location) : l.path = if l = here then ⟨"."⟩ else l.spelling := by
  obtain ⟨anchor, names⟩ := l
  cases anchor with
  | root => simp [path, spelling, here]
  | above levels =>
    have : (⟨.above levels, names⟩ : Location).segments = [] ↔
        (⟨.above levels, names⟩ : Location) = here := by
      simp [segments, here]
    simp [path, spelling, this]

/-- The canonical path of a location leads to it. -/
theorem location_path {l : Location} (hl : l.Canonical) : l.path.location = l := by
  rw [path_eq]
  split
  · next hhere => exact hhere ▸ by decide
  · exact location_spelling hl

/-- Two locations with one canonical path are the same. -/
theorem path_injective {l m : Location} (hl : l.Canonical) (hm : m.Canonical)
    (heq : l.path = m.path) : l = m := by
  rw [← location_path hl, heq, location_path hm]

/-- The components of the path are the segments of the location. -/
theorem components_spelling {l : Location} (hl : l.Canonical) :
    l.spelling.components = l.segments := by
  have hdot : l.segments.head? ≠ some "." := by
    rw [← filter_segments hl]
    intro h
    simpa using (List.mem_filter.mp (List.mem_of_mem_head? h)).2
  rw [Path.components, Path.steps, segments_spelling hl, filter_segments hl, if_neg]
  simp [hdot]

/-- The directory has a canonical path. -/
theorem canonical_directory {l : Location} (hl : l.Canonical) : l.directory.Canonical := by
  obtain ⟨anchor, names⟩ := l
  cases names with
  | cons name names => exact fun n hn => hl n (List.mem_cons_of_mem _ hn)
  | nil => cases anchor <;> simp [directory, here, Canonical]

/-- The path loses its last segment. -/
theorem parent_spelling {l : Location} (hl : l.Canonical) (hne : l.segments ≠ []) :
    l.spelling.parent =
      ⟨(if l.anchor = .root then "/" else "") ++ "/".intercalate l.segments.dropLast⟩ := by
  simp only [Path.parent, Path.parent?, components_spelling hl, isAbsolute_spelling hl, hne,
    if_false, Option.getD_some, decide_eq_true_eq]

/-- Without its last component the path is the path of the directory; the root has none. -/
theorem parent_path {l : Location} (hl : l.Canonical) :
    l.path.parent = if l = ⟨.root, []⟩ then ⟨""⟩ else l.directory.spelling := by
  have hparent := parent_spelling hl
  obtain ⟨anchor, names⟩ := l
  rw [path_eq]
  cases names with
  | cons name names =>
    have hne : (⟨anchor, name :: names⟩ : Location).segments ≠ [] := by
      cases anchor <;> simp [segments]
    have hlast : (⟨anchor, name :: names⟩ : Location).segments.dropLast =
        (⟨anchor, names⟩ : Location).segments := by
      cases anchor <;> simp [segments, ← List.append_assoc]
    rw [if_neg (by simp [here]), if_neg (by simp), hparent hne, hlast]
    rfl
  | nil =>
    cases anchor with
    | root => decide
    | above levels =>
      cases levels with
      | zero => decide
      | succ levels =>
        have hlast : (⟨.above (levels + 1), []⟩ : Location).segments.dropLast =
            (⟨.above levels, []⟩ : Location).segments := by
          simp [segments]
        rw [if_neg (by simp [here]), if_neg (by simp), hparent (by simp [segments]), hlast]
        rfl

/-- Where the canonical path says that a file lies is the directory of its location. -/
theorem location_parent {l : Location} (hl : l.Canonical) :
    l.path.parent.location = l.directory := by
  rw [parent_path hl]
  split
  · next hroot => exact hroot ▸ by decide
  · exact location_spelling (canonical_directory hl)

end Location

end DemoBuild
