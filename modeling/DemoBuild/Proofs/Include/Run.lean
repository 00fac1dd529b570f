import DemoBuild.Proofs.Include.Directive
import DemoBuild.Proofs.Include.Steps

/-!
# Runs of the flattener

Expanding includes one step at a time. Between two steps the flattener is at a `Moment`: it is about
to read a file, to look for a directive or to hand back what a file has been expanded to, while the
texts of other files wait. A moment holds all that nested calls keep apart, so what is true at every
moment is true at every point of an expansion.

Whether a directive names a file that is being expanded is a question of its own, which a run may
leave out. If it is asked, a run takes the flattener through all of its calls and ends as they
return.

## Main definitions

* `Flattener.Moment`: where a run is;
* `Flattener.Moment.Step`: what happens next, with or without the guard against cycles;
* `Flattener.Moment.Reaches` and `Flattener.Moment.EndsIn`: runs, and runs to the end.

## Main results

* `Flattener.Moment.endsIn_iff`: there is one run to the end;
* `Flattener.reaches_all`: the functions of the flattener run step by step;
* `Flattener.endsIn_flatten`: so flattening a file is a run.
-/

namespace DemoBuild

namespace Flattener

/-- A text that waits while the file that one of its directives names is expanded. -/
structure Pending where
  /-- The file whose text it is. -/
  file : Location
  /-- The text as it has been edited so far. -/
  buffer : List Char
  /-- Where the directive starts. -/
  start : Nat
  /-- Where the directive stops. -/
  stop : Nat

/-- The first directive behind a position in the text of a file, and the file that it names. -/
def search (file : Location) (buffer : List Char) (offset : Nat) : Option (Pending × Location) :=
  match Directive.splitFirst [] (buffer.drop offset) with
  | (_, none) => none
  | (before, some (d, _)) =>
    let start := offset + before.length
    some (⟨file, buffer, start, start + d.text.length⟩,
      file.directory.follow ⟨String.ofList d.target⟩)

theorem search_eq_none {file : Location} {buffer before : List Char} {offset : Nat}
    (hfound : Directive.splitFirst [] (buffer.drop offset) = (before, none)) :
    search file buffer offset = none := by
  rw [search, hfound]

theorem search_eq_some {file : Location} {buffer before after : List Char} {offset : Nat}
    {d : Directive}
    (hfound : Directive.splitFirst [] (buffer.drop offset) = (before, some (d, after))) :
    search file buffer offset =
      some (⟨file, buffer, offset + before.length, offset + before.length + d.text.length⟩,
        file.directory.follow ⟨String.ofList d.target⟩) := by
  rw [search, hfound]

/-- What is found is the first directive behind the position. -/
theorem exists_first_of_search {file target : Location} {buffer : List Char} {offset : Nat}
    {p : Pending} (hsearch : search file buffer offset = some (p, target)) :
    ∃ before d after, Directive.First (buffer.drop offset) before d after ∧
      p = ⟨file, buffer, offset + before.length, offset + before.length + d.text.length⟩ ∧
      target = file.directory.follow ⟨String.ofList d.target⟩ := by
  rw [search] at hsearch
  split at hsearch
  · cases hsearch
  · next hfound =>
    cases hsearch
    exact ⟨_, _, _, Directive.first_of_splitFirst hfound, rfl, rfl⟩

/-- What the flattener is about to do. -/
inductive Phase where
  /-- To read a file that has just been met. -/
  | read (file : Location)
  /-- To look for a directive behind a position in the text of a file. -/
  | expand (file : Location) (buffer : List Char) (offset : Nat)
  /-- To hand back what a file has been expanded to. -/
  | finish (outcome : Except Error (List Char))

/-- Where a run is. -/
structure Moment where
  /-- What is remembered. -/
  flattener : Flattener
  /-- The texts that wait, innermost first. -/
  waiting : List Pending
  /-- What comes next. -/
  phase : Phase

namespace Moment

/-- A file is about to be flattened: it has been met, and nothing else has. -/
def initial (f : Flattener) (root : Path) : Moment :=
  ⟨f.clear.meet root.location, [], .read root.location⟩

/-- A text has waited long enough: its directive is replaced, or the text fails as well. -/
def resume (f : Flattener) (waiting : List Pending) (p : Pending) :
    Except Error (List Char) → Moment
  | .ok replacement =>
    ⟨f, waiting, .expand p.file (replaceRange p.buffer p.start p.stop replacement)
      (p.start + replacement.length)⟩
  | .error e => ⟨f.pop, waiting, .finish (.error e)⟩

/-- What happens next, and what is logged. Only a guarded run asks whether a file is being
expanded. -/
inductive Step (sources : Sources) (guarded : Bool) : Moment → List LogEntry → Moment → Prop
  /-- A file that cannot be read fails. -/
  | unreadable {f waiting file reason} (hread : sources.read file = .error reason) :
      Step sources guarded ⟨f, waiting, .read file⟩ []
        ⟨f, waiting, .finish (.error (.file file.path reason))⟩
  /-- The text of a file is expanded from its start. -/
  | readable {f waiting file text} (hread : sources.read file = .ok text) :
      Step sources guarded ⟨f, waiting, .read file⟩ []
        ⟨f.push file, waiting, .expand file text.toList 0⟩
  /-- A text without a directive behind the position is finished. -/
  | plain {f waiting file buffer offset} (hsearch : search file buffer offset = none) :
      Step sources guarded ⟨f, waiting, .expand file buffer offset⟩ []
        ⟨f.pop, waiting, .finish (.ok buffer)⟩
  /-- A directive that names a file being expanded is left out. -/
  | cyclic {f waiting file buffer offset p target}
      (hsearch : search file buffer offset = some (p, target)) (hguard : guarded = true)
      (hstack : target ∈ f.stack) :
      Step sources guarded ⟨f, waiting, .expand file buffer offset⟩
        [Expansion.note "skipping cyclic include: " target] (resume f waiting p (.ok []))
  /-- A directive that names a file met before is left out. -/
  | repeated {f waiting file buffer offset p target}
      (hsearch : search file buffer offset = some (p, target))
      (hstack : guarded = true → target ∉ f.stack) (hmet : target ∈ f.met) :
      Step sources guarded ⟨f, waiting, .expand file buffer offset⟩
        [Expansion.note "skipping repeated include: " target] (resume f waiting p (.ok []))
  /-- A text waits for a file that it names for the first time. -/
  | found {f waiting file buffer offset p target}
      (hsearch : search file buffer offset = some (p, target))
      (hstack : guarded = true → target ∉ f.stack) (hnew : target ∉ f.met) :
      Step sources guarded ⟨f, waiting, .expand file buffer offset⟩
        [Expansion.note "found include path: " target]
        ⟨f.meet target, p :: waiting, .read target⟩
  /-- What a file has been expanded to is handed to the text that waits for it. -/
  | finished {f waiting p outcome} :
      Step sources guarded ⟨f, p :: waiting, .finish outcome⟩ [] (resume f waiting p outcome)

/-- A run from one moment to another one, with what is logged on the way. -/
inductive Reaches (sources : Sources) (guarded : Bool) : Moment → List LogEntry → Moment → Prop
  /-- A run may take no step. -/
  | refl (m : Moment) : Reaches sources guarded m [] m
  /-- A run goes on after its first step. -/
  | head {m n k : Moment} {entries log : List LogEntry} (hstep : Step sources guarded m entries n)
      (hrest : Reaches sources guarded n log k) : Reaches sources guarded m (entries ++ log) k

/-- A run that goes on until nothing is left to do. -/
def EndsIn (sources : Sources) (guarded : Bool) (m : Moment) (log : List LogEntry)
    (n : Moment) : Prop :=
  m.Reaches sources guarded log n ∧ ∀ entries k, ¬n.Step sources guarded entries k

variable {sources : Sources} {guarded : Bool} {m n k : Moment}
  {entries entries' log log' : List LogEntry}

/-- There is at most one step. -/
theorem Step.deterministic (h : m.Step sources guarded entries n)
    (h' : m.Step sources guarded entries' k) : entries = entries' ∧ n = k := by
  cases h with
  | finished =>
    cases h'
    exact ⟨rfl, rfl⟩
  -- the other steps are told apart by what is read, what is found, and what is remembered
  | _ => cases h' <;> simp_all

/-- Nothing is left to do when no text waits for what is handed back. -/
theorem not_step_finish (f : Flattener) (outcome : Except Error (List Char)) :
    ¬Step sources guarded ⟨f, [], .finish outcome⟩ entries n :=
  nofun

theorem Reaches.single (h : m.Step sources guarded entries n) :
    m.Reaches sources guarded entries n := by
  simpa using Reaches.head h (.refl n)

theorem Reaches.trans (h : m.Reaches sources guarded log n)
    (h' : n.Reaches sources guarded log' k) : m.Reaches sources guarded (log ++ log') k := by
  induction h with
  | refl => exact h'
  | head hstep _ ih =>
    rw [List.append_assoc]
    exact .head hstep (ih h')

/-- What every step keeps, a run keeps. -/
theorem Reaches.invariant {P : Moment → Prop}
    (hkeeps : ∀ {m entries n}, P m → Step sources guarded m entries n → P n) (hm : P m)
    (h : m.Reaches sources guarded log n) : P n := by
  induction h with
  | refl => exact hm
  | head hstep _ ih => exact ih (hkeeps hm hstep)

/-- A run to the end is the only one. -/
theorem endsIn_iff (h : m.EndsIn sources guarded log n) :
    m.EndsIn sources guarded log' k ↔ log' = log ∧ k = n := by
  constructor
  · rintro ⟨hrun', hend'⟩
    obtain ⟨hrun, hend⟩ := h
    induction hrun generalizing log' with
    | refl =>
      cases hrun' with
      | refl => exact ⟨rfl, rfl⟩
      | head hstep' => exact absurd hstep' (hend _ _)
    | head hstep _ ih =>
      cases hrun' with
      | refl => exact absurd hstep (hend' _ _)
      | head hstep' hrest' =>
        -- both runs begin with the same step
        obtain ⟨rfl, rfl⟩ := hstep.deterministic hstep'
        obtain ⟨rfl, rfl⟩ := ih hrest' hend
        exact ⟨rfl, rfl⟩
  · rintro ⟨rfl, rfl⟩
    exact h

end Moment

open Moment

/-- The functions of the flattener run step by step, whatever texts wait for them. The induction is
on their calls. -/
theorem reaches_all (sources : Sources) :
    (∀ (f : Flattener) (l : Location) (new : l ∉ f.met) (waiting : List Pending),
      let e := (enter sources f l new).1
      Reaches sources true ⟨f.meet l, waiting, .read l⟩ e.log
        ⟨e.flattener, waiting, .finish e.outcome⟩) ∧
    (∀ (directory : Location) (f : Flattener) (buffer : List Char) (offset : Nat)
        (file : Location) (waiting : List Pending), file.directory = directory →
      let e := (expandIncludes sources directory f buffer offset).1
      Reaches sources true ⟨f, waiting, .expand file buffer offset⟩ e.log
        ⟨e.flattener.pop, waiting, .finish e.outcome⟩) ∧
    (∀ (f : Flattener) (target file : Location) (buffer : List Char) (offset : Nat) (p : Pending)
        (waiting : List Pending), search file buffer offset = some (p, target) →
      let e := (resolve sources f target).1
      Reaches sources true ⟨f, waiting, .expand file buffer offset⟩ e.log
        (resume e.flattener waiting p e.outcome)) := by
  apply enter.mutual_induct sources
  -- entering a file that cannot be read
  case case1 =>
    intro f l new reason hread waiting
    rw [enter_of_error new hread]
    exact .single (.unreadable hread)
  -- entering a file that can be read: its text is expanded from the start
  case case2 =>
    intro f l new text hread _ e _ _ ih waiting
    rw [enter_of_ok new hread]
    exact .head (.readable hread) (ih l waiting rfl)
  -- no directive is left behind the position
  case case3 =>
    intro directory f buffer offset before hfound file waiting _
    rw [expandIncludes_of_none hfound]
    exact .single (.plain (search_eq_none hfound))
  -- the file that the first directive names fails, and so does the text that waits for it
  case case4 =>
    intro directory f buffer offset before d after hfound inner _ hinner e he ih file waiting
      hdirectory
    have hinner' : (resolve sources f (directory.follow ⟨String.ofList d.target⟩)).1 = inner := by
      rw [hinner]
    have hrun := ih file buffer offset _ waiting (hdirectory ▸ search_eq_some hfound)
    rw [expandIncludes_of_error hfound (hinner' ▸ he)]
    rw [hinner'] at hrun ⊢
    simpa only [he, resume] using hrun
  -- the first directive is replaced, and the expansion goes on behind the replacement
  case case5 =>
    intro directory f buffer offset before d after hfound start stop inner _ hinner replacement he
      _ _ e _ _ ih ihrest file waiting hdirectory
    have hinner' : (resolve sources f (directory.follow ⟨String.ofList d.target⟩)).1 = inner := by
      rw [hinner]
    have hrun := ih file buffer offset _ waiting (hdirectory ▸ search_eq_some hfound)
    rw [expandIncludes_of_ok hfound (hinner' ▸ he)]
    rw [hinner'] at hrun ⊢
    simp only [he, resume] at hrun
    exact hrun.trans (ihrest file waiting hdirectory)
  -- a file that is being expanded
  case case6 =>
    intro f target hstack file buffer offset p waiting hsearch
    rw [resolve_of_mem_stack hstack]
    exact .single (.cyclic hsearch rfl hstack)
  -- a file that has been met
  case case7 =>
    intro f target hstack hmet file buffer offset p waiting hsearch
    rw [resolve_of_mem_met hstack hmet]
    exact .single (.repeated hsearch (fun _ => hstack) hmet)
  -- a file that has not been met: the text waits until the file has been expanded
  case case8 =>
    intro f target hstack hnew e _ _ ih file buffer offset p waiting hsearch
    rw [resolve_of_not_mem hstack hnew]
    have hinner := (ih (p :: waiting)).trans (.single .finished)
    rw [List.append_nil] at hinner
    exact .head (.found hsearch (fun _ => hstack) hnew) hinner

/-- Flattening a file is a run to the end. -/
theorem endsIn_flatten (sources : Sources) (f : Flattener) (root : Path) :
    let e := f.flatten sources root
    (Moment.initial f root).EndsIn sources true e.log ⟨e.flattener, [], .finish e.outcome⟩ :=
  ⟨(reaches_all sources).1 f.clear root.location _ [], fun _ _ => not_step_finish _ _⟩

end Flattener

end DemoBuild
