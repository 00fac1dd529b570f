import DemoBuild.Proofs.Include.Stack
import Mathlib.Data.List.Forall2

/-!
# The guard against cycles

The flattener asks two questions before it enters a file: whether the file is being expanded, and
whether it has been met. The second one would do, since all that is on the stack has been met. A run
that does not ask the first one goes through the same moments, and says of a file that is being
expanded that it is repeated.

## Main definitions

* `Flattener.Reworded`: log entries that differ in whether they call an include cyclic.

## Main results

* `Flattener.Moment.Step.unguarded` and `Flattener.Moment.Reaches.unguarded`: the same moments are
  reached without the guard;
* `Flattener.flatten_guard_redundant`: flattening a file does not depend on the guard.
-/

namespace DemoBuild

namespace Flattener

/-- The entries are the same, or the second one calls an include repeated that the first one calls
cyclic. -/
inductive Reworded : LogEntry → LogEntry → Prop
  /-- The entries are the same. -/
  | refl (entry : LogEntry) : Reworded entry entry
  /-- A file that is being expanded has been met before. -/
  | cyclic (l : Location) :
      Reworded (Expansion.note "skipping cyclic include: " l)
        (Expansion.note "skipping repeated include: " l)

instance : Std.Refl Reworded :=
  ⟨.refl⟩

namespace Moment

variable {sources : Sources} {m n : Moment} {entries log : List LogEntry}

/-- Without the guard a step leads to the same moment. -/
theorem Step.unguarded (hm : m.Sound) (h : m.Step sources true entries n) :
    ∃ entries', m.Step sources false entries' n ∧ List.Forall₂ Reworded entries entries' := by
  cases h with
  | unreadable hread => exact ⟨_, .unreadable hread, List.forall₂_refl _⟩
  | readable hread => exact ⟨_, .readable hread, List.forall₂_refl _⟩
  | plain hsearch => exact ⟨_, .plain hsearch, List.forall₂_refl _⟩
  | cyclic hsearch _ hstack =>
    -- what is on the stack has been met, so the other question has the same answer
    have hmet := hm.valid.stack_subset hstack
    exact ⟨_, .repeated hsearch nofun hmet, .cons (.cyclic _) .nil⟩
  | repeated hsearch _ hmet => exact ⟨_, .repeated hsearch nofun hmet, List.forall₂_refl _⟩
  | found hsearch _ hnew => exact ⟨_, .found hsearch nofun hnew, List.forall₂_refl _⟩
  | finished => exact ⟨_, .finished, List.forall₂_refl _⟩

/-- Without the guard a run goes through the same moments. -/
theorem Reaches.unguarded (hm : m.Sound) (h : m.Reaches sources true log n) :
    ∃ log', m.Reaches sources false log' n ∧ List.Forall₂ Reworded log log' := by
  induction h with
  | refl => exact ⟨[], .refl _, .nil⟩
  | head hstep _ ih =>
    obtain ⟨entries', hstep', hentries⟩ := hstep.unguarded hm
    obtain ⟨log', hrest', hlog⟩ := ih (sound_step hm hstep)
    exact ⟨entries' ++ log', .head hstep' hrest', List.rel_append hentries hlog⟩

end Moment

open Moment

/-- The guard against cycles adds nothing to the rule that a file is expanded once. At every moment
of a run, with or without the guard, the stack lists the files whose texts are being expanded: a
path of inclusions from the root on that meets no file twice. All of them have been met, and all
that has been met has a canonical path. A file that is about to be read is expanded or fails, and
then the stack is as it was. Flattening a file is the one run to the end with the guard, and the one
without it ends in the same way; only the wording of its log may differ. -/
theorem flatten_guard_redundant (sources : Sources) (f : Flattener) (root : Path) :
    let e := f.flatten sources root
    (∀ guarded log m, (Moment.initial f root).Reaches sources guarded log m →
      m.flattener.stack = m.underway ∧
      m.flattener.stack.Nodup ∧
      IsInclusionPath sources root.location m.flattener.stack ∧
      m.flattener.stack ⊆ m.flattener.met ∧
      ∀ l ∈ m.flattener.met, l.path.location = l ∧ l.path.normalize = l.path) ∧
    (∀ log g waiting file,
      (Moment.initial f root).Reaches sources true log ⟨g, waiting, .read file⟩ →
      ∃ log' g' outcome,
        Reaches sources true ⟨g, waiting, .read file⟩ log' ⟨g', waiting, .finish outcome⟩ ∧
          g'.stack = g.stack) ∧
    (∀ log m, (Moment.initial f root).EndsIn sources true log m ↔
      log = e.log ∧ m = ⟨e.flattener, [], .finish e.outcome⟩) ∧
    ∃ unguardedLog, List.Forall₂ Reworded e.log unguardedLog ∧
      ∀ log m, (Moment.initial f root).EndsIn sources false log m ↔
        log = unguardedLog ∧ m = ⟨e.flattener, [], .finish e.outcome⟩ := by
  intro e
  have hends := endsIn_flatten sources f root
  obtain ⟨unguardedLog, hunguarded, hreworded⟩ := hends.1.unguarded (sound_initial f root)
  refine ⟨?_, ?_, fun _ _ => endsIn_iff hends, unguardedLog, hreworded,
    fun _ _ => endsIn_iff ⟨hunguarded, fun _ _ => not_step_finish _ _⟩⟩
  · intro guarded log m hrun
    have hm := sound_of_reaches hrun
    have hpath := isInclusionPath_stack hm (linked_of_reaches hrun)
    refine ⟨hm.stack_eq, hm.nodup, hpath, hm.valid.stack_subset, fun l hl => ?_⟩
    have hlocation := Location.location_path (hm.valid.canonical l hl)
    exact ⟨hlocation, by rw [Path.normalize, hlocation]⟩
  · intro log g waiting file hrun
    exact (sound_of_reaches hrun).exists_finish sources

/-- Two files that include each other. -/
def cycle : Sources :=
  .ofFiles [⟨⟨"a"⟩, "#include \"b\""⟩, ⟨⟨"b"⟩, "#include <a>B"⟩]

/-- The first file of the cycle. -/
def cycleRoot : Location :=
  ⟨.above 0, ["a"]⟩

/-- The second file of the cycle. -/
def cycleNext : Location :=
  ⟨.above 0, ["b"]⟩

/-- The second file is being expanded, and names the first one. -/
def insideCycle : Moment :=
  ⟨⟨[cycleNext, cycleRoot], [cycleNext, cycleRoot]⟩,
    [⟨cycleRoot, "#include \"b\"".toList, 0, 12⟩], .expand cycleNext "#include <a>B".toList 0⟩

theorem reaches_insideCycle (guarded : Bool) :
    (Moment.initial .initial ⟨"a"⟩).Reaches cycle guarded
      [Expansion.note "found include path: " cycleNext] insideCycle := by
  have hsearch : search cycleRoot "#include \"b\"".toList 0 =
      some (⟨cycleRoot, "#include \"b\"".toList, 0, 12⟩, cycleNext) := rfl
  have hnew : cycleNext ∉ [cycleRoot] := by decide
  have hread : cycle.read cycleRoot = .ok "#include \"b\"" := rfl
  have hread' : cycle.read cycleNext = .ok "#include <a>B" := rfl
  exact .head (.readable hread) (.head (.found hsearch (fun _ => hnew) hnew)
    (.single (.readable hread')))

theorem search_insideCycle :
    search cycleNext "#include <a>B".toList 0 =
      some (⟨cycleNext, "#include <a>B".toList, 0, 12⟩, cycleRoot) := rfl

/-- Whatever is logged about the directive that closes the cycle, it is replaced by nothing. -/
theorem endsIn_cycle {guarded : Bool} {entry : LogEntry}
    (hskip : insideCycle.Step cycle guarded [entry]
      { insideCycle with phase := .expand cycleNext "B".toList 0 }) :
    (Moment.initial .initial ⟨"a"⟩).EndsIn cycle guarded
      [Expansion.note "found include path: " cycleNext, entry]
      ⟨⟨[], [cycleNext, cycleRoot]⟩, [], .finish (.ok "B".toList)⟩ := by
  have hnext : search cycleNext "B".toList 0 = none := rfl
  have hroot : search cycleRoot "B".toList 1 = none := rfl
  refine ⟨(reaches_insideCycle guarded).trans ?_, fun _ _ => not_step_finish _ _⟩
  exact .head hskip (.head (.plain hnext) (.head .finished (.single (.plain hroot))))

/-- The file that closes the cycle is left out with and without the guard. -/
theorem flatten_guard_redundant_cycle :
    let e := initial.flatten cycle ⟨"a"⟩
    e.outcome = .ok "B".toList ∧
    e.log = [Expansion.note "found include path: " cycleNext,
      Expansion.note "skipping cyclic include: " cycleRoot] ∧
    insideCycle.flattener.stack.Nodup ∧
    IsInclusionPath cycle cycleRoot insideCycle.flattener.stack ∧
    (Moment.initial .initial ⟨"a"⟩).EndsIn cycle false
      [Expansion.note "found include path: " cycleNext,
        Expansion.note "skipping repeated include: " cycleRoot]
      ⟨e.flattener, [], .finish e.outcome⟩ := by
  obtain ⟨hmoments, -, hguarded, unguardedLog, -, hunguarded⟩ :=
    flatten_guard_redundant cycle initial ⟨"a"⟩
  obtain ⟨-, hnodup, hpath, -⟩ := hmoments true _ _ (reaches_insideCycle true)
  obtain ⟨hlog, hend⟩ := (hguarded _ _).mp
    (endsIn_cycle (.cyclic search_insideCycle rfl (by decide)))
  obtain ⟨rfl, -⟩ := (hunguarded _ _).mp
    (endsIn_cycle (.repeated search_insideCycle nofun (by decide)))
  refine ⟨?_, hlog.symm, hnodup, hpath, (hunguarded _ _).mpr ⟨rfl, rfl⟩⟩
  simpa using (congrArg Moment.phase hend).symm

end Flattener

end DemoBuild
