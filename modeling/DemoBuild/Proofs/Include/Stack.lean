import DemoBuild.Proofs.Include.Conservation
import DemoBuild.Proofs.Include.Run
import Mathlib.Data.List.Chain

/-!
# The stack of the flattener

What the flattener remembers while it runs. Its stack lists the files whose texts are being expanded
at the moment, neither more nor less, and all of them have been met. Each of them includes the one
above it, no two are the same, and the lowest one is the root, so the stack is a path without cycles
in the graph of the files. All of this holds with and without the guard against cycles, since a file
is entered only when it is met for the first time.

## Main definitions

* `Flattener.Moment.underway`: the files whose texts are being expanded;
* `Flattener.Moment.Sound`: what is remembered agrees with where the run is;
* `Flattener.IsInclusionPath`: files that include each other, from a root on;
* `Flattener.Moment.Linked`: the texts that wait are what is left of the texts of such files.

## Main results

* `Flattener.Moment.sound_of_reaches` and `Flattener.Moment.linked_of_reaches`: both hold throughout
  a run;
* `Flattener.Moment.isInclusionPath_stack`: so the stack is a path of inclusions;
* `Flattener.Moment.Sound.exists_finish`: what is entered is left, with the stack as it was.
-/

namespace DemoBuild

/-- Behind a replacement stands what stood behind the text that it replaces. -/
theorem drop_replaceRange {text : List Char} {start : Nat} (hstart : start ≤ text.length)
    (stop : Nat) (replacement : List Char) :
    (replaceRange text start stop replacement).drop (start + replacement.length) =
      text.drop stop := by
  have hlength : (text.take start ++ replacement).length = start + replacement.length := by
    rw [List.length_append, List.length_take_of_le hstart]
  rw [replaceRange, ← hlength, List.drop_left]

namespace Flattener

variable {sources : Sources} {guarded : Bool} {f : Flattener} {waiting : List Pending}
  {root file target : Location} {buffer : List Char} {offset : Nat} {p : Pending}
  {outcome : Except Error (List Char)}

/-- The text that is found to wait is the one that was searched. -/
theorem file_of_search (hsearch : search file buffer offset = some (p, target)) :
    p.file = file := by
  obtain ⟨_, _, _, -, rfl, -⟩ := exists_first_of_search hsearch
  rfl

/-- The files that directives name are canonical. -/
theorem canonical_of_search (hfile : file.Canonical)
    (hsearch : search file buffer offset = some (p, target)) : target.Canonical := by
  obtain ⟨_, _, _, -, -, rfl⟩ := exists_first_of_search hsearch
  exact Location.canonical_follow (Location.canonical_directory hfile) _

namespace Moment

variable {m n : Moment} {entries log : List LogEntry}

/-! ## What is remembered -/

/-- The files whose texts are being expanded, innermost first. A file that is about to be read is
not one of them yet. -/
def underway (m : Moment) : List Location :=
  match m.phase with
  | .expand file _ _ => file :: m.waiting.map Pending.file
  | .read _ | .finish _ => m.waiting.map Pending.file

/-- What is remembered agrees with where the run is. -/
structure Sound (m : Moment) : Prop where
  /-- What is on the stack has been met, and all that has been met has a canonical path. -/
  valid : m.flattener.Valid
  /-- On the stack are the files whose texts are being expanded. -/
  stack_eq : m.flattener.stack = m.underway
  /-- No file is expanded inside itself. -/
  nodup : m.flattener.stack.Nodup
  /-- A file is read when it has just been met for the first time. -/
  exists_meet : ∀ file, m.phase = .read file →
    ∃ before : Flattener, before.Valid ∧ file ∉ before.met ∧ m.flattener = before.meet file

theorem sound_initial (f : Flattener) (root : Path) : (initial f root).Sound where
  valid := valid_meet (valid_clear f) (Location.canonical_follow Location.canonical_here root)
  stack_eq := rfl
  nodup := List.nodup_nil
  exists_meet _ h := by
    cases h
    exact ⟨f.clear, valid_clear f, List.not_mem_nil, rfl⟩

/-- The file whose text is being expanded is on the stack, so it has been met. -/
theorem Sound.canonical (hm : Sound ⟨f, waiting, .expand file buffer offset⟩) : file.Canonical :=
  have hstack : f.stack = file :: waiting.map Pending.file := hm.stack_eq
  hm.valid.canonical file (hm.valid.stack_subset (hstack ▸ List.mem_cons_self))

/-- A text that has waited stays on top of the stack if it is expanded further, and is taken off if
it fails. -/
theorem Sound.resume (hm : Sound ⟨f, p :: waiting, .finish outcome⟩) :
    (resume f waiting p outcome).Sound := by
  cases outcome with
  | ok replacement => exact ⟨hm.valid, hm.stack_eq, hm.nodup, nofun⟩
  | error e => exact ⟨valid_pop hm.valid, congrArg List.tail hm.stack_eq, hm.nodup.tail, nofun⟩

/-- A step keeps what is remembered in agreement, with and without the guard. -/
theorem sound_step (hm : m.Sound) (hstep : m.Step sources guarded entries n) : n.Sound := by
  cases hstep with
  | unreadable => exact ⟨hm.valid, hm.stack_eq, hm.nodup, nofun⟩
  | @readable _ _ file =>
    obtain ⟨before, hbefore, hnew, rfl⟩ := hm.exists_meet file rfl
    -- what is on the stack had been met before the file was
    have hstack : file ∉ before.stack := fun h => hnew (hbefore.stack_subset h)
    exact ⟨valid_push hm.valid List.mem_cons_self, congrArg (file :: ·) hm.stack_eq,
      hm.nodup.cons hstack, nofun⟩
  | plain => exact ⟨valid_pop hm.valid, congrArg List.tail hm.stack_eq, hm.nodup.tail, nofun⟩
  -- a directive that is left out changes nothing that is remembered
  | cyclic hsearch | repeated hsearch =>
    obtain rfl := file_of_search hsearch
    exact Sound.resume ⟨hm.valid, hm.stack_eq, hm.nodup, nofun⟩
  -- the file is met now and put on the stack when its text has been read
  | @found f _ _ _ _ _ _ hsearch _ hnew =>
    have htarget := canonical_of_search hm.canonical hsearch
    obtain rfl := file_of_search hsearch
    refine ⟨valid_meet hm.valid htarget, hm.stack_eq, hm.nodup, fun _ h => ?_⟩
    cases h
    exact ⟨f, hm.valid, hnew, rfl⟩
  | finished => exact hm.resume

/-- What is remembered agrees with where the run is, from its start on. -/
theorem sound_of_reaches {root : Path} (h : (initial f root).Reaches sources guarded log m) :
    m.Sound :=
  h.invariant sound_step (sound_initial f root)

/-- A file that is about to be read is expanded or fails, and then the stack is as it was. -/
theorem Sound.exists_finish (hm : Sound ⟨f, waiting, .read file⟩) (sources : Sources) :
    ∃ log g outcome,
      Reaches sources true ⟨f, waiting, .read file⟩ log ⟨g, waiting, .finish outcome⟩ ∧
        g.stack = f.stack := by
  obtain ⟨before, -, hnew, rfl⟩ := hm.exists_meet file rfl
  have hrun := (reaches_all sources).1 before file hnew waiting
  have hend := hrun.invariant sound_step hm
  exact ⟨_, _, _, hrun, hend.stack_eq.trans hm.stack_eq.symm⟩

end Moment

/-! ## How the files hang together -/

/-- The first file has been reached from the root, and each other one includes the one in front of
it. -/
structure IsInclusionPath (sources : Sources) (root : Location) (files : List Location) : Prop where
  /-- Each file includes the one in front of it. -/
  chain : files.IsChain fun inner outer => Includes sources.readPath outer.path inner.path
  /-- The last file is the root. -/
  eq_root : ∀ l ∈ files.getLast?, l = root

theorem IsInclusionPath.tail {files : List Location}
    (h : IsInclusionPath sources root (file :: files)) : IsInclusionPath sources root files :=
  ⟨h.chain.tail, fun l hl => h.eq_root l (by simp_all [List.getLast?_cons])⟩

theorem IsInclusionPath.cons {files : List Location}
    (h : IsInclusionPath sources root (file :: files))
    (hincludes : Includes sources.readPath file.path target.path) :
    IsInclusionPath sources root (target :: file :: files) :=
  ⟨.cons_cons hincludes h.chain, fun l hl => h.eq_root l (by simpa using hl)⟩

/-- What is left of the text of a file names only files that the file includes. -/
def NamesIncluded (sources : Sources) (file : Location) (rest : List Char) : Prop :=
  ∀ q ∈ (Expandable.text file.path.parent rest).asks, Includes sources.readPath file.path q

/-- The whole text of a file names what the file includes. -/
theorem namesIncluded_of_read (hfile : file.Canonical) {text : String}
    (hread : sources.read file = .ok text) : NamesIncluded sources file text.toList := by
  intro q hq
  refine ⟨text, ?_, hq⟩
  rw [Sources.readPath, Location.location_path hfile, hread]

/-- The file includes the one that its first directive names, and behind the directive stands what
is left of its text. -/
theorem NamesIncluded.of_search (h : NamesIncluded sources file (buffer.drop offset))
    (hfile : file.Canonical) (hoffset : offset ≤ buffer.length)
    (hsearch : search file buffer offset = some (p, target)) :
    Includes sources.readPath file.path target.path ∧
      p.start ≤ p.buffer.length ∧ NamesIncluded sources p.file (p.buffer.drop p.stop) := by
  obtain ⟨before, d, after, hfirst, rfl, rfl⟩ := exists_first_of_search hsearch
  -- the first directive of what is left is asked for first, and then those behind it
  rw [NamesIncluded, Expandable.asks, Directive.directives_cut_of_first hfirst, List.map_cons,
    namedFrom_eq (Location.location_parent hfile), List.forall_mem_cons] at h
  obtain ⟨hincludes, hafter⟩ := h
  refine ⟨hincludes, ?_, ?_⟩
  · show offset + before.length ≤ buffer.length
    have hlength := congrArg List.length hfirst.split
    simp only [List.length_append, List.length_drop] at hlength
    omega
  · show NamesIncluded sources file (buffer.drop (offset + before.length + d.text.length))
    rwa [Nat.add_assoc, ← List.drop_drop, hfirst.split, ← List.length_append, List.drop_left]

namespace Moment

variable {m n : Moment} {entries log : List LogEntry}

/-- The files that have been entered and not left, innermost first. -/
def entered (m : Moment) : List Location :=
  match m.phase with
  | .read file | .expand file _ _ => file :: m.waiting.map Pending.file
  | .finish _ => m.waiting.map Pending.file

/-- The text that is expanded and the texts that wait are what is left of the texts of files that
include each other. -/
structure Linked (sources : Sources) (root : Location) (m : Moment) : Prop where
  /-- The files that have been entered include each other. -/
  isInclusionPath : IsInclusionPath sources root m.entered
  /-- Behind the position stands what is left of the text that is expanded. -/
  expanded : ∀ file buffer offset, m.phase = .expand file buffer offset →
    offset ≤ buffer.length ∧ NamesIncluded sources file (buffer.drop offset)
  /-- Behind its directive stands what is left of a text that waits. -/
  waits : ∀ p ∈ m.waiting,
    p.start ≤ p.buffer.length ∧ NamesIncluded sources p.file (p.buffer.drop p.stop)

theorem linked_initial (f : Flattener) (root : Path) :
    (initial f root).Linked sources root.location where
  isInclusionPath := ⟨.singleton _, fun l hl => by simpa [entered, initial] using hl.symm⟩
  expanded := nofun
  waits := nofun

/-- A replacement leaves what is left of the text. -/
theorem Linked.resume (hm : Linked sources root ⟨f, p :: waiting, .finish outcome⟩) :
    (resume f waiting p outcome).Linked sources root := by
  obtain ⟨⟨hstart, hrest⟩, hwaits⟩ := List.forall_mem_cons.mp hm.waits
  cases outcome with
  | error e => exact ⟨hm.isInclusionPath.tail, nofun, hwaits⟩
  | ok replacement =>
    refine ⟨hm.isInclusionPath, fun _ _ _ h => ?_, hwaits⟩
    cases h
    rw [drop_replaceRange hstart]
    exact ⟨le_length_replaceRange hstart _ _, hrest⟩

theorem linked_step (hsound : m.Sound) (hm : m.Linked sources root)
    (hstep : m.Step sources guarded entries n) : n.Linked sources root := by
  cases hstep with
  -- a file that fails is left
  | unreadable => exact ⟨hm.isInclusionPath.tail, nofun, hm.waits⟩
  | @readable _ _ file _ hread =>
    obtain ⟨before, -, -, rfl⟩ := hsound.exists_meet file rfl
    have hfile := hsound.valid.canonical file List.mem_cons_self
    refine ⟨hm.isInclusionPath, fun _ _ _ h => ?_, hm.waits⟩
    cases h
    exact ⟨Nat.zero_le _, namesIncluded_of_read hfile hread⟩
  | plain => exact ⟨hm.isInclusionPath.tail, nofun, hm.waits⟩
  | cyclic hsearch | repeated hsearch =>
    obtain ⟨hoffset, hnames⟩ := hm.expanded _ _ _ rfl
    obtain ⟨-, hp⟩ := hnames.of_search hsound.canonical hoffset hsearch
    obtain rfl := file_of_search hsearch
    -- the text goes on as if the file had been expanded to nothing
    exact Linked.resume ⟨hm.isInclusionPath, nofun, List.forall_mem_cons.mpr ⟨hp, hm.waits⟩⟩
  | found hsearch =>
    obtain ⟨hoffset, hnames⟩ := hm.expanded _ _ _ rfl
    obtain ⟨hincludes, hp⟩ := hnames.of_search hsound.canonical hoffset hsearch
    obtain rfl := file_of_search hsearch
    exact ⟨hm.isInclusionPath.cons hincludes, nofun, List.forall_mem_cons.mpr ⟨hp, hm.waits⟩⟩
  | finished => exact hm.resume

/-- The texts hang together throughout a run. -/
theorem linked_of_reaches {root : Path} (h : (initial f root).Reaches sources guarded log m) :
    m.Linked sources root.location :=
  (h.invariant (P := fun m => m.Sound ∧ m.Linked sources root.location)
    (fun hm hstep => ⟨sound_step hm.1 hstep, linked_step hm.1 hm.2 hstep⟩)
    ⟨sound_initial f root, linked_initial f root⟩).2

/-- The stack is a path of inclusions, from the root on. -/
theorem isInclusionPath_stack (hsound : m.Sound) (hm : m.Linked sources root) :
    IsInclusionPath sources root m.flattener.stack := by
  obtain ⟨f, waiting, phase⟩ := m
  rw [hsound.stack_eq]
  cases phase with
  | read => exact hm.isInclusionPath.tail
  | expand => exact hm.isInclusionPath
  | finish => exact hm.isInclusionPath

end Moment

end Flattener

end DemoBuild
