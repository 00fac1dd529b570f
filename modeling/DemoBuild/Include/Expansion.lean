import DemoBuild.Files.System
import DemoBuild.Include.Directive
import DemoBuild.Session

/-!
# Expanding includes

A `Flattener` gives the text of a file with every directive replaced by the expanded text of the
file that it names, seen from the directory of the file that holds the directive. Each file is
expanded at the first directive that names it; a directive that names a file met before, the root
included, is replaced by nothing. A file that cannot be read ends the expansion.

A text is edited in place: a directive is looked for behind the text that has been dealt with, and
the search goes on behind what has been put into its place. The recursion ends because only finitely
many files can be read and each is entered once, and because every replacement leaves less of the
text to deal with.
-/

namespace DemoBuild

/-- Where included texts come from. Finitely many locations can be read. -/
structure Sources where
  /-- Reads the text at a location. -/
  read : Location → Except FileError String
  /-- The locations that can be read, and possibly others. -/
  readable : List Location
  /-- Nothing else can be read. -/
  mem_readable : ∀ {l : Location} {text : String}, read l = .ok text → l ∈ readable

namespace Sources

/-- The number of readable locations that have not been met. -/
def unmet (sources : Sources) (met : List Location) : Nat :=
  sources.readable.countP (· ∉ met)

/-- Meeting more locations leaves no more. -/
theorem unmet_le (sources : Sources) {met later : List Location} (sub : met ⊆ later) :
    sources.unmet later ≤ sources.unmet met :=
  List.countP_mono_left fun x _ h => by
    simpa using fun h' => (by simpa using h : x ∉ later) (sub h')

/-- Meeting a readable location for the first time leaves fewer. -/
theorem unmet_lt {sources : Sources} {met later : List Location} {l : Location}
    (readable : l ∈ sources.readable) (new : l ∉ met) (sub : l :: met ⊆ later) :
    sources.unmet later < sources.unmet met := by
  have kept (x : Location) : x ∉ later → x ∉ met := fun h h' => h (sub (List.mem_cons_of_mem _ h'))
  have now : l ∈ later := sub List.mem_cons_self
  unfold unmet
  generalize sources.readable = all at readable
  induction all with
  | nil => simp at readable
  | cons x all ih =>
    have le : all.countP (· ∉ later) ≤ all.countP (· ∉ met) :=
      List.countP_mono_left fun x _ h => by simpa using kept x (by simpa using h)
    by_cases eq : l = x
    · subst eq
      simp [now, new]
      simpa using Nat.lt_succ_of_le le
    · have := ih ((List.mem_cons.1 readable).resolve_left eq)
      have := kept x
      simp only [List.countP_cons, decide_eq_true_eq]
      grind

end Sources

/-- What is remembered while includes are expanded. -/
structure Flattener where
  /-- The files that are being expanded, innermost first. -/
  stack : List Location
  /-- The files that have been met. -/
  met : List Location
  deriving DecidableEq, Repr

/-- What is known after an expansion. -/
structure Expansion where
  /-- What is remembered. -/
  flattener : Flattener
  /-- The log of the expansion. -/
  log : List LogEntry
  /-- The expanded text. -/
  outcome : Except Error (List Char)

/-- A log entry about a location that a directive names. -/
def Expansion.note (text : String) (l : Location) : LogEntry :=
  ⟨.debug, text ++ l.path.text⟩

/-- The text with what stands between two positions replaced. -/
def replaceRange (text : List Char) (start stop : Nat) (replacement : List Char) : List Char :=
  text.take start ++ replacement ++ text.drop stop

/-- Behind a replaced directive there is less text than there was in front of it. -/
theorem remaining_lt_of_splitFirst {text before after : List Char} {offset : Nat} {d : Directive}
    (found : Directive.splitFirst [] (text.drop offset) = (before, some (d, after)))
    (replacement : List Char) :
    (replaceRange text (offset + before.length) (offset + before.length + d.text.length)
      replacement).length - (offset + before.length + replacement.length) <
        text.length - offset := by
  have eq := Directive.splitFirst_eq [] (text.drop offset)
  rw [found] at eq
  have length := congrArg List.length eq.1
  have pos := List.length_pos_iff.2 eq.2
  simp only [List.length_append, List.length_drop, List.reverse_nil, List.nil_append] at length
  simp only [replaceRange, List.length_append, List.length_take, List.length_drop]
  omega

namespace Flattener

/-- Nothing has been met. -/
def initial : Flattener :=
  ⟨[], []⟩

/-- The flattener before another file is expanded. -/
def clear (f : Flattener) : Flattener :=
  { f with stack := [], met := [] }

/-- The expansion of a file begins. -/
def push (f : Flattener) (l : Location) : Flattener :=
  { f with stack := l :: f.stack }

/-- The expansion of a file has ended. -/
def pop (f : Flattener) : Flattener :=
  { f with stack := f.stack.tail }

/-- A file is met. -/
def meet (f : Flattener) (l : Location) : Flattener :=
  { f with met := l :: f.met }

mutual

/-- Reads a file that has not been met and expands its text. -/
def enter (sources : Sources) (f : Flattener) (l : Location) (new : l ∉ f.met) :
    { e : Expansion // l :: f.met ⊆ e.flattener.met } :=
  match readable : sources.read l with
  | .error reason =>
    ⟨⟨f.meet l, [], .error (.file l.path reason)⟩, List.Subset.refl _⟩
  | .ok text =>
    have := Sources.unmet_lt (sources.mem_readable readable) new (List.Subset.refl _)
    let ⟨e, sub⟩ := expandIncludes sources l.directory ((f.meet l).push l) text.toList 0
    ⟨{ e with flattener := e.flattener.pop }, sub⟩
  termination_by (sources.unmet f.met, 0, 0)

/-- What a directive that names `target` is replaced by: nothing if the file has been met. -/
def resolve (sources : Sources) (f : Flattener) (target : Location) :
    { e : Expansion // f.met ⊆ e.flattener.met } :=
  if target ∈ f.stack then
    ⟨⟨f, [Expansion.note "skipping cyclic include: " target], .ok []⟩, List.Subset.refl _⟩
  else if new : target ∈ f.met then
    ⟨⟨f, [Expansion.note "skipping repeated include: " target], .ok []⟩, List.Subset.refl _⟩
  else
    let ⟨e, sub⟩ := enter sources f target new
    ⟨{ e with log := Expansion.note "found include path: " target :: e.log },
      fun _ h => sub (List.mem_cons_of_mem _ h)⟩
  termination_by (sources.unmet f.met, 1, 0)

/-- Replaces the directives of a text that stand behind `offset`. They are followed from
`directory`. -/
def expandIncludes (sources : Sources) (directory : Location) (f : Flattener) (buffer : List Char)
    (offset : Nat) : { e : Expansion // f.met ⊆ e.flattener.met } :=
  match found : Directive.splitFirst [] (buffer.drop offset) with
  | (_, none) => ⟨⟨f, [], .ok buffer⟩, List.Subset.refl _⟩
  | (before, some (d, _)) =>
    let start := offset + before.length
    let stop := start + d.text.length
    let ⟨inner, sub⟩ := resolve sources f (directory.follow ⟨String.ofList d.target⟩)
    match inner.outcome with
    | .error e => ⟨{ inner with outcome := .error e }, sub⟩
    | .ok replacement =>
      have _fewer := Sources.unmet_le sources sub
      have _less := remaining_lt_of_splitFirst found replacement
      let ⟨e, sub'⟩ := expandIncludes sources directory inner.flattener
        (replaceRange buffer start stop replacement) (start + replacement.length)
      ⟨{ e with log := inner.log ++ e.log }, fun _ h => sub' (sub h)⟩
  termination_by (sources.unmet f.met, 2, buffer.length - offset)
  decreasing_by
    · decreasing_tactic
    · exact Prod.Lex.right' _ _fewer (Prod.Lex.right _ _less)

end

/-- The text of the file at a path with all includes expanded. -/
def flatten (sources : Sources) (f : Flattener) (path : Path) : Expansion :=
  (enter sources f.clear path.location (by simp [clear])).1

end Flattener

namespace FileSystem

/-- What exists below an anchor is recorded. -/
theorem mem_of_entryBelow {fs : FileSystem} {anchor : Anchor} {name : String} {names : List String}
    {e : Entry} (h : fs.entryBelow anchor (name :: names) = .ok e) :
    (⟨anchor, name :: names⟩ : Location) ∈ fs.entries.map Prod.fst := by
  simp only [entryBelow, bind, Except.bind] at h
  split at h
  · simp at h
  · split at h
    · simp at h
    · split at h
      · simp at h
      · split at h
        · rename_i found
          obtain ⟨x, hx, -⟩ := Option.map_eq_some_iff.1 found
          have mem := List.mem_of_find?_eq_some hx
          have eq : x.1 = ⟨anchor, name :: names⟩ := by simpa using List.find?_some hx
          exact eq ▸ List.mem_map_of_mem mem
        · simp at h

/-- A location that can be read is recorded. -/
theorem mem_of_readAt {fs : FileSystem} {l : Location} {text : String}
    (h : fs.readAt l = .ok text) : l ∈ fs.entries.map Prod.fst := by
  obtain ⟨anchor, names⟩ := l
  simp only [readAt, entry] at h
  split at h
  · simp at h
  · cases names with
    | nil => simp [entryBelow, Entry.read] at h
    | cons name names =>
      split at h
      · rename_i found
        exact mem_of_entryBelow found
      · simp at h

/-- The text files of a file system. -/
def sources (fs : FileSystem) : Sources :=
  { read := fs.readAt
    readable := fs.entries.map Prod.fst
    mem_readable := mem_of_readAt }

end FileSystem

/-- Reads a file and expands its includes. -/
def Action.flatten (path : Path) : Action String := do
  let e := Flattener.initial.flatten (← Action.files).sources path
  Action.logAll e.log
  match e.outcome with
  | .ok text => return String.ofList text
  | .error e => throw e

end DemoBuild
