import DemoBuild.Proofs.Files.Path
import DemoBuild.Proofs.Include.Directive
import DemoBuild.Proofs.Include.Steps

/-!
# Depth-first expansion

What expanding includes means, said without buffers, positions and stacks: `DepthFirst` takes the
text of a file as it was read, cuts it at its first directive, expands the file that the directive
names unless that file has been met, and goes on with the rest of the text. The files that have been
met are handed on in the order in which the directives stand.

The flattener edits the text in place instead. Its invariant is that the text in front of the
position is finished while the text behind it is still the text that was read, so that the expansion
of the rest says what the finished text will be.

## Main definitions

* `DepthFirst`: the depth-first expansion of a file or of a text;
* `Flattener.Valid`: what is expanded has been met, and all that has been met has a canonical path.

## Main results

* `DepthFirst.deterministic`: there is at most one expansion;
* `DepthFirst.exists_eq_append`: a failure names the first file met that cannot be read;
* `Flattener.depthFirst_all`: editing in place is depth-first expansion;
* `Flattener.flatten_outcome_eq_iff_depthFirst`: so is flattening a file, whatever was flattened
  before;
* `Sources.exists_readPath_eq`: the files that can be read may be any finitely many.
-/

namespace DemoBuild

/-- What can be expanded. -/
inductive Expandable where
  /-- A file. -/
  | file (path : Path)
  /-- A text whose directives are followed from a directory. -/
  | text (directory : Path) (chars : List Char)

/-- The file that a directive names, seen from a directory. -/
def Directive.namedFrom (directory : Path) (d : Directive) : Path :=
  (directory.join ⟨String.ofList d.target⟩).normalize

/-- `DepthFirst read x met later r`: where the files `met` have been met already, the depth-first
expansion of `x` has the outcome `r`, and the files `later` have been met at its end. Files are
listed in the order in which they are met. -/
inductive DepthFirst (read : Path → Except FileError String) :
    Expandable → List Path → List Path → Except Error (List Char) → Prop
  /-- A file that cannot be read ends the expansion. -/
  | unreadable {file met reason} (hread : read file = .error reason) :
      DepthFirst read (.file file) met (met ++ [file]) (.error (.file file reason))
  /-- The text of a file is expanded in the directory of the file. -/
  | readable {file met text later r} (hread : read file = .ok text)
      (htext : DepthFirst read (.text file.parent text.toList) (met ++ [file]) later r) :
      DepthFirst read (.file file) met later r
  /-- A text without directives stays as it is. -/
  | plain {directory text met} (hfree : Directive.Free text) :
      DepthFirst read (.text directory text) met met (.ok text)
  /-- A directive that names a file met before is left out. -/
  | repeated {directory text before d after met later r}
      (hfirst : Directive.First text before d after) (hmet : d.namedFrom directory ∈ met)
      (hafter : DepthFirst read (.text directory after) met later r) :
      DepthFirst read (.text directory text) met later ((before ++ ·) <$> r)
  /-- A failure inside a file that is named for the first time ends the expansion. -/
  | failed {directory text before d after met later e}
      (hfirst : Directive.First text before d after) (hnew : d.namedFrom directory ∉ met)
      (hfile : DepthFirst read (.file (d.namedFrom directory)) met later (.error e)) :
      DepthFirst read (.text directory text) met later (.error e)
  /-- A directive that names a file for the first time is replaced by the expanded file. -/
  | included {directory text before d after met between later inner r}
      (hfirst : Directive.First text before d after) (hnew : d.namedFrom directory ∉ met)
      (hfile : DepthFirst read (.file (d.namedFrom directory)) met between (.ok inner))
      (hafter : DepthFirst read (.text directory after) between later r) :
      DepthFirst read (.text directory text) met later ((before ++ inner ++ ·) <$> r)

namespace DepthFirst

variable {read : Path → Except FileError String} {x : Expandable} {met later later' : List Path}
  {r r' : Except Error (List Char)}

/-- There is at most one expansion. -/
theorem deterministic (h : DepthFirst read x met later r) (h' : DepthFirst read x met later' r') :
    later = later' ∧ r = r' := by
  induction h generalizing later' r' with
  | unreadable hread =>
    cases h' with
    | unreadable hread' =>
      rw [hread] at hread'
      cases hread'
      exact ⟨rfl, rfl⟩
    | readable hread' => simp [hread] at hread'
  | readable hread _ ih =>
    cases h' with
    | unreadable hread' => simp [hread] at hread'
    | readable hread' htext' =>
      rw [hread] at hread'
      cases hread'
      exact ih htext'
  | plain hfree =>
    cases h' with
    | plain => exact ⟨rfl, rfl⟩
    | repeated hfirst' => exact absurd hfree hfirst'.not_free
    | failed hfirst' => exact absurd hfree hfirst'.not_free
    | included hfirst' => exact absurd hfree hfirst'.not_free
  | repeated hfirst hmet _ ih =>
    cases h' with
    | plain hfree' => exact absurd hfree' hfirst.not_free
    | repeated hfirst' _ hafter' =>
      obtain ⟨rfl, rfl, rfl⟩ := hfirst.unique hfirst'
      obtain ⟨rfl, rfl⟩ := ih hafter'
      exact ⟨rfl, rfl⟩
    | failed hfirst' hnew' =>
      obtain ⟨rfl, rfl, rfl⟩ := hfirst.unique hfirst'
      exact absurd hmet hnew'
    | included hfirst' hnew' =>
      obtain ⟨rfl, rfl, rfl⟩ := hfirst.unique hfirst'
      exact absurd hmet hnew'
  | failed hfirst hnew _ ih =>
    cases h' with
    | plain hfree' => exact absurd hfree' hfirst.not_free
    | repeated hfirst' hmet' =>
      obtain ⟨rfl, rfl, rfl⟩ := hfirst.unique hfirst'
      exact absurd hmet' hnew
    | failed hfirst' _ hfile' =>
      obtain ⟨rfl, rfl, rfl⟩ := hfirst.unique hfirst'
      exact ih hfile'
    | included hfirst' _ hfile' =>
      obtain ⟨rfl, rfl, rfl⟩ := hfirst.unique hfirst'
      simpa using (ih hfile').2
  | included hfirst hnew _ _ ihfile ihafter =>
    cases h' with
    | plain hfree' => exact absurd hfree' hfirst.not_free
    | repeated hfirst' hmet' =>
      obtain ⟨rfl, rfl, rfl⟩ := hfirst.unique hfirst'
      exact absurd hmet' hnew
    | failed hfirst' _ hfile' =>
      obtain ⟨rfl, rfl, rfl⟩ := hfirst.unique hfirst'
      simpa using (ihfile hfile').2
    | included hfirst' _ hfile' hafter' =>
      obtain ⟨rfl, rfl, rfl⟩ := hfirst.unique hfirst'
      obtain ⟨rfl, hinner⟩ := ihfile hfile'
      cases hinner
      obtain ⟨rfl, rfl⟩ := ihafter hafter'
      exact ⟨rfl, rfl⟩

/-- The error with which a file ends the expansion, if it cannot be read. -/
def failure? (read : Path → Except FileError String) (file : Path) : Option Error :=
  match read file with
  | .error reason => some (.file file reason)
  | .ok _ => none

/-- The files that are met come behind those met before, and a failure is the one of the first of
them that cannot be read. -/
theorem exists_eq_append (h : DepthFirst read x met later r) :
    ∃ new, later = met ++ new ∧ ∀ e, r = .error e ↔ new.findSome? (failure? read) = some e := by
  induction h with
  | unreadable hread => exact ⟨_, rfl, fun e => by simp [failure?, hread]⟩
  | @readable file _ _ _ _ hread _ ih =>
    obtain ⟨new, rfl, hnew⟩ := ih
    refine ⟨file :: new, by simp, fun e => ?_⟩
    rw [hnew, List.findSome?_cons]
    simp [failure?, hread]
  | plain => exact ⟨[], by simp, by simp⟩
  | @repeated _ _ _ _ _ _ _ r _ _ _ ih =>
    obtain ⟨new, rfl, hnew⟩ := ih
    refine ⟨new, rfl, fun e => ?_⟩
    rw [← hnew]
    cases r <;> simp
  | failed _ _ _ ih => exact ih
  | @included _ _ _ _ _ _ _ _ _ r _ _ _ _ ihfile ihafter =>
    obtain ⟨new, rfl, hnew⟩ := ihfile
    obtain ⟨new', rfl, hnew'⟩ := ihafter
    refine ⟨new ++ new', by simp, fun e => ?_⟩
    -- the included file did not fail, so the first failure is behind it
    have hnone : new.findSome? (failure? read) = none := by
      rw [Option.eq_none_iff_forall_ne_some]
      intro e he
      simpa using (hnew e).mpr he
    rw [List.findSome?_append, hnone, Option.none_or, ← hnew']
    cases r <;> simp

end DepthFirst

/-- What can be read at a path. -/
def Sources.readPath (sources : Sources) (p : Path) : Except FileError String :=
  sources.read p.location

namespace Flattener

/-- What is being expanded has been met, and all that has been met has a canonical path. -/
structure Valid (f : Flattener) : Prop where
  /-- All that has been met has a canonical path. -/
  canonical : ∀ l ∈ f.met, l.Canonical
  /-- What is being expanded has been met. -/
  stack_subset : f.stack ⊆ f.met

/-- The canonical paths of the files that have been met, in the order in which they were met. -/
def visited (f : Flattener) : List Path :=
  (f.met.map Location.path).reverse

/-- Nothing is being expanded and nothing has been met. -/
theorem valid_clear (f : Flattener) : f.clear.Valid :=
  ⟨by simp [clear], by simp [clear]⟩

/-- Nothing has been met. -/
@[simp]
theorem visited_clear (f : Flattener) : f.clear.visited = [] := rfl

/-- Meeting a file. -/
theorem valid_meet {f : Flattener} (hf : f.Valid) {l : Location} (hl : l.Canonical) :
    (f.meet l).Valid :=
  ⟨List.forall_mem_cons.mpr ⟨hl, hf.canonical⟩,
    fun _ h => List.mem_cons_of_mem _ (hf.stack_subset h)⟩

/-- Meeting a file. -/
@[simp]
theorem visited_meet (f : Flattener) (l : Location) :
    (f.meet l).visited = f.visited ++ [l.path] := by
  simp [visited, meet]

/-- The expansion of a file that has been met begins. -/
theorem valid_push {f : Flattener} (hf : f.Valid) {l : Location} (hl : l ∈ f.met) :
    (f.push l).Valid :=
  ⟨hf.canonical, List.cons_subset.mpr ⟨hl, hf.stack_subset⟩⟩

/-- The expansion of a file ends. -/
theorem valid_pop {f : Flattener} (hf : f.Valid) : f.pop.Valid :=
  ⟨hf.canonical, fun _ h => hf.stack_subset (List.mem_of_mem_tail h)⟩

/-- A file has been met if its canonical path is among those of the files that have been met. -/
theorem path_mem_visited_iff {f : Flattener} (hf : f.Valid) {l : Location} (hl : l.Canonical) :
    l.path ∈ f.visited ↔ l ∈ f.met := by
  rw [visited, List.mem_reverse, List.mem_map]
  constructor
  · rintro ⟨m, hm, heq⟩
    exact Location.path_injective (hf.canonical m hm) hl heq ▸ hm
  · exact fun h => ⟨l, h, rfl⟩

/-- An expansion leaves a valid state, and leaves the files being expanded as they were. -/
structure Restores (f : Flattener) (e : Expansion) : Prop where
  /-- The state is valid. -/
  valid : e.flattener.Valid
  /-- The files being expanded are the same. -/
  stack_eq : e.flattener.stack = f.stack

/-- The text in front of the position is finished, and the text behind it is expanded as it stands
there. -/
def Finishes (sources : Sources) (directory : Path) (f : Flattener) (buffer : List Char)
    (offset : Nat) (e : Expansion) : Prop :=
  ∃ r, DepthFirst sources.readPath (.text directory (buffer.drop offset)) f.visited
    e.flattener.visited r ∧ e.outcome = (buffer.take offset ++ ·) <$> r

variable {sources : Sources}

/-- Replacing the first directive behind the position and finishing the text from behind the
replacement finishes the text from the position. -/
theorem Finishes.of_rest {directory : Path} {f g : Flattener}
    {buffer before after replacement : List Char} {offset : Nat} {d : Directive} {e : Expansion}
    (hoffset : offset ≤ buffer.length)
    (hfirst : Directive.First (buffer.drop offset) before d after)
    (hstep : ∀ later r, DepthFirst sources.readPath (.text directory after) g.visited later r →
      DepthFirst sources.readPath (.text directory (buffer.drop offset)) f.visited later
        ((before ++ replacement ++ ·) <$> r))
    (hrest : Finishes sources directory g
      (replaceRange buffer (offset + before.length) (offset + before.length + d.text.length)
        replacement) (offset + before.length + replacement.length) e) :
    Finishes sources directory f buffer offset e := by
  -- the buffer is `finished ++ before ++ directive ++ after`, and only the directive changes
  have hlength : (buffer.take offset).length = offset := List.length_take_of_le hoffset
  have hreplaced : replaceRange buffer (offset + before.length)
      (offset + before.length + d.text.length) replacement =
        buffer.take offset ++ before ++ replacement ++ after := by
    have h := replaceRange_append (buffer.take offset) before d.text after replacement
    rwa [← hfirst.split, List.take_append_drop, hlength] at h
  have hdone : (buffer.take offset ++ before ++ replacement).length =
      offset + before.length + replacement.length := by
    simp only [List.length_append, hlength]
  obtain ⟨r, hafter, houtcome⟩ := hrest
  rw [hreplaced, ← hdone, List.drop_left] at hafter
  rw [hreplaced, ← hdone, List.take_left] at houtcome
  refine ⟨_, hstep _ _ hafter, ?_⟩
  rw [houtcome]
  cases r with
  | error e => rfl
  | ok rest => simp [List.append_assoc]

/-- Entering a file is its depth-first expansion. -/
structure Enters (sources : Sources) (f : Flattener) (l : Location) (e : Expansion) : Prop
    extends Restores f e where
  /-- The outcome is that of the depth-first expansion. -/
  depthFirst : DepthFirst sources.readPath (.file l.path) f.visited e.flattener.visited e.outcome

/-- Going on with a text is the depth-first expansion of what is left of it. -/
structure Continues (sources : Sources) (directory : Location) (f : Flattener)
    (buffer : List Char) (offset : Nat) (e : Expansion) : Prop extends Restores f e where
  /-- The text is finished, whatever path names the directory. -/
  finishes : ∀ p : Path, p.location = directory → Finishes sources p f buffer offset e

/-- A directive that names a file met before leaves everything as it is; any other one enters the
file. -/
def Resolves (sources : Sources) (f : Flattener) (target : Location) (e : Expansion) : Prop :=
  (target ∈ f.met → e.flattener = f ∧ e.outcome = .ok []) ∧
    (target ∉ f.met → Enters sources f target e)

/-- A file that can be read is entered if its text is expanded. -/
theorem Enters.of_continues {f : Flattener} {l : Location} (hl : l.Canonical) {text : String}
    (hread : sources.read l = .ok text) {e : Expansion}
    (he : Continues sources l.directory ((f.meet l).push l) text.toList 0 e) :
    Enters sources f l { e with flattener := e.flattener.pop } := by
  obtain ⟨r, hr, houtcome⟩ := he.finishes l.path.parent (Location.location_parent hl)
  have hread' : sources.readPath l.path = .ok text := by
    rw [Sources.readPath, Location.location_path hl, hread]
  have houtcome' : e.outcome = r := by
    rw [houtcome]
    cases r <;> simp
  refine ⟨⟨valid_pop he.valid, ?_⟩, ?_⟩
  · rw [pop, he.stack_eq]
    rfl
  · rw [houtcome']
    refine .readable hread' ?_
    rw [← visited_meet]
    exact hr

/-- The path that a directive names is the canonical path of the location that it names. -/
theorem namedFrom_eq {p : Path} {directory : Location} (hp : p.location = directory)
    (d : Directive) :
    d.namedFrom p = (directory.follow ⟨String.ofList d.target⟩).path := by
  rw [Directive.namedFrom, Path.normalize, Path.location_join, hp]

/-- A failure inside an included file is the failure of the depth-first expansion. -/
theorem Continues.of_failure {directory : Location} {f : Flattener}
    {buffer before after : List Char} {offset : Nat} {d : Directive} {e : Error}
    {inner : Expansion} (hf : f.Valid) (hdirectory : directory.Canonical)
    (hfirst : Directive.First (buffer.drop offset) before d after)
    (he : inner.outcome = .error e)
    (hinner : Resolves sources f (directory.follow ⟨String.ofList d.target⟩) inner) :
    Continues sources directory f buffer offset inner := by
  have htarget := Location.canonical_follow hdirectory ⟨String.ofList d.target⟩
  -- a file met before is replaced by nothing, which does not fail
  have hnew : directory.follow ⟨String.ofList d.target⟩ ∉ f.met := by
    intro hmet
    simp [(hinner.1 hmet).2] at he
  have henters := hinner.2 hnew
  refine ⟨henters.toRestores, fun p hp => ⟨.error e, ?_, by rw [he]; rfl⟩⟩
  have hfile := henters.depthFirst
  rw [he, ← namedFrom_eq hp] at hfile
  refine .failed hfirst ?_ hfile
  rwa [namedFrom_eq hp, path_mem_visited_iff hf htarget]

/-- Replacing a directive restores the state. -/
theorem Resolves.restores {f : Flattener} (hf : f.Valid) {target : Location} {e : Expansion}
    (he : Resolves sources f target e) : Restores f e := by
  by_cases hmet : target ∈ f.met
  · obtain ⟨hsame, -⟩ := he.1 hmet
    exact ⟨hsame ▸ hf, by rw [hsame]⟩
  · exact (he.2 hmet).toRestores

/-- The depth-first expansion goes on behind the replacement of a directive. -/
theorem Resolves.depthFirst_append {directory : Location} {f : Flattener}
    {text before after replacement : List Char} {d : Directive} {inner : Expansion} (hf : f.Valid)
    (hdirectory : directory.Canonical) (hfirst : Directive.First text before d after)
    (he : inner.outcome = .ok replacement)
    (hinner : Resolves sources f (directory.follow ⟨String.ofList d.target⟩) inner) {p : Path}
    (hp : p.location = directory) {later : List Path} {r : Except Error (List Char)}
    (hafter : DepthFirst sources.readPath (.text p after) inner.flattener.visited later r) :
    DepthFirst sources.readPath (.text p text) f.visited later
      ((before ++ replacement ++ ·) <$> r) := by
  have hmem := path_mem_visited_iff hf
    (Location.canonical_follow hdirectory ⟨String.ofList d.target⟩)
  rw [← namedFrom_eq hp] at hmem
  by_cases hmet : directory.follow ⟨String.ofList d.target⟩ ∈ f.met
  · obtain ⟨hsame, hempty⟩ := hinner.1 hmet
    have hnone : replacement = [] := by simpa [he] using hempty
    rw [hsame] at hafter
    rw [hnone, List.append_nil]
    exact .repeated hfirst (hmem.mpr hmet) hafter
  · have hfile := (hinner.2 hmet).depthFirst
    rw [he, ← namedFrom_eq hp] at hfile
    exact .included hfirst (fun h => hmet (hmem.mp h)) hfile hafter

/-- The functions of the flattener compute the depth-first expansion. The induction is on their
calls. -/
theorem depthFirst_all (sources : Sources) :
    (∀ (f : Flattener) (l : Location) (new : l ∉ f.met), f.Valid → l.Canonical →
      Enters sources f l (enter sources f l new).1) ∧
    (∀ (directory : Location) (f : Flattener) (buffer : List Char) (offset : Nat), f.Valid →
      directory.Canonical → offset ≤ buffer.length →
      Continues sources directory f buffer offset
        (expandIncludes sources directory f buffer offset).1) ∧
    (∀ (f : Flattener) (target : Location), f.Valid → target.Canonical →
      Resolves sources f target (resolve sources f target).1) := by
  apply enter.mutual_induct sources
  -- entering a file that cannot be read
  case case1 =>
    intro f l new reason hread hf hl
    rw [enter_of_error new hread]
    refine ⟨⟨valid_meet hf hl, rfl⟩, ?_⟩
    rw [visited_meet]
    refine .unreadable ?_
    rw [Sources.readPath, Location.location_path hl, hread]
  -- entering a file that can be read: its text is expanded from the start
  case case2 =>
    intro f l new text hread _ e _ _ ih hf hl
    rw [enter_of_ok new hread]
    exact .of_continues hl hread (ih (valid_push (valid_meet hf hl) List.mem_cons_self)
      (Location.canonical_directory hl) (Nat.zero_le _))
  -- no directive is left behind the position
  case case3 =>
    intro directory f buffer offset before hfound hf _ _
    rw [expandIncludes_of_none hfound]
    refine ⟨⟨hf, rfl⟩, fun p _ => ⟨_, .plain (Directive.free_of_splitFirst hfound), ?_⟩⟩
    simp
  -- the file that the first directive names fails, which ends the expansion
  case case4 =>
    intro directory f buffer offset before d after hfound inner _ hinner e he ih hf hdirectory _
    have hinner' : (resolve sources f (directory.follow ⟨String.ofList d.target⟩)).1 = inner := by
      rw [hinner]
    have hresolves := ih hf (Location.canonical_follow hdirectory _)
    rw [expandIncludes_of_error hfound (hinner' ▸ he)]
    rw [hinner'] at hresolves ⊢
    exact .of_failure hf hdirectory (Directive.first_of_splitFirst hfound) he hresolves
  -- the first directive is replaced, and the expansion goes on behind the replacement
  case case5 =>
    intro directory f buffer offset before d after hfound start stop inner _ hinner replacement he
      _ _ e _ _ ih ihrest hf hdirectory hoffset
    have hinner' : (resolve sources f (directory.follow ⟨String.ofList d.target⟩)).1 = inner := by
      rw [hinner]
    have hresolves := ih hf (Location.canonical_follow hdirectory _)
    rw [expandIncludes_of_ok hfound (hinner' ▸ he)]
    rw [hinner'] at hresolves ⊢
    have hfirst := Directive.first_of_splitFirst hfound
    have hrestores := hresolves.restores hf
    have hstart : start ≤ buffer.length := by
      have hlength := congrArg List.length hfirst.split
      simp only [List.length_append, List.length_drop] at hlength
      omega
    have hrest := ihrest hrestores.valid hdirectory (le_length_replaceRange hstart _ _)
    exact ⟨⟨hrest.valid, hrest.stack_eq.trans hrestores.stack_eq⟩, fun p hp =>
      .of_rest hoffset hfirst
        (fun _ _ hafter => hresolves.depthFirst_append hf hdirectory hfirst he hp hafter)
        (hrest.finishes p hp)⟩
  -- what is being expanded has been met, so the two tests that the code makes are one
  case case6 =>
    intro f target hstack hf _
    rw [resolve_of_mem_stack hstack]
    exact ⟨fun _ => ⟨rfl, rfl⟩, fun hnew => absurd (hf.stack_subset hstack) hnew⟩
  -- a file that has been met
  case case7 =>
    intro f target hstack hmet hf _
    rw [resolve_of_mem_met hstack hmet]
    exact ⟨fun _ => ⟨rfl, rfl⟩, fun hnew => absurd hmet hnew⟩
  -- a file that has not been met
  case case8 =>
    intro f target hstack hnew e _ _ ih hf htarget
    rw [resolve_of_not_mem hstack hnew]
    have henters := ih hf htarget
    exact ⟨fun hmet => absurd hmet hnew,
      fun _ => ⟨⟨henters.valid, henters.stack_eq⟩, henters.depthFirst⟩⟩

/-- Flattening a file is its depth-first expansion from the start. -/
theorem depthFirst_flatten (sources : Sources) (f : Flattener) (root : Path) :
    DepthFirst sources.readPath (.file root.normalize) []
      (f.flatten sources root).flattener.visited (f.flatten sources root).outcome :=
  ((depthFirst_all sources).1 f.clear root.location _ (valid_clear f)
    (Location.canonical_follow Location.canonical_here root)).depthFirst

/-- Flattening a file always has an outcome, and it is the one of the depth-first expansion, no
matter what the flattener was used for before. It fails if and only if one of the files that are met
cannot be read, and then with the error of the first of them. -/
theorem flatten_outcome_eq_iff_depthFirst (sources : Sources) (f : Flattener) (root : Path) :
    (∀ r, (f.flatten sources root).outcome = r ↔
      ∃ visited, DepthFirst sources.readPath (.file root.normalize) [] visited r) ∧
    ∃ visited,
      DepthFirst sources.readPath (.file root.normalize) [] visited
        (f.flatten sources root).outcome ∧
      ∀ e, (f.flatten sources root).outcome = .error e ↔
        visited.findSome? (DepthFirst.failure? sources.readPath) = some e := by
  have hflatten := depthFirst_flatten sources f root
  constructor
  · intro r
    constructor
    · rintro rfl
      exact ⟨_, hflatten⟩
    · rintro ⟨visited, hvisited⟩
      exact (hflatten.deterministic hvisited).2
  · obtain ⟨new, hnew, hfailure⟩ := hflatten.exists_eq_append
    rw [List.nil_append] at hnew
    exact ⟨new, hnew ▸ hflatten, hfailure⟩

end Flattener

/-- Every file system in which finitely many normalized paths can be read is seen by the flattener:
what can be read at a path is all that the expansion of files depends on. -/
theorem Sources.exists_readPath_eq {read : Path → Except FileError String} {paths : List Path}
    (hread : ∀ p text, p.normalize = p → read p = .ok text → p ∈ paths) :
    ∃ sources : Sources, ∀ p, p.normalize = p → sources.readPath p = read p := by
  have hcanonical (p : Path) : p.location.Canonical :=
    Location.canonical_follow Location.canonical_here p
  refine ⟨{
    read l := if l.path.location = l then read l.path else .error (.os .notFound)
    readable := paths.map Path.location
    mem_readable := ?_ }, fun p hp => ?_⟩
  · intro l text hl
    split at hl
    · next hpath =>
      have hnormal : l.path.normalize = l.path := by rw [Path.normalize, hpath]
      exact List.mem_map.mpr ⟨l.path, hread _ _ hnormal hl, hpath⟩
    · simp at hl
  · have hpath : p.location.path = p := hp
    simp only [Sources.readPath, hpath, if_true]

end DemoBuild
